import Swapsack.ListKitProofs
import Swapsack.ByteStringProofs
import Swapsack.FeePackageProofs
import Swapsack.PyTextProofs
import Swapsack.BaseProofs
import Swapsack.CoinsProofs
import Swapsack.SelectionProofs
import Swapsack.BtcProofs
import Swapsack.RbfProofs
import Swapsack.BumpProofs
import Swapsack.WireProofs
import Swapsack.CosmosTxProofs
import Swapsack.CosmosRoundTripProofs
import Swapsack.VerifyProofs
import Swapsack.MemoProofs
import Swapsack.CosmosGateProofs
import Swapsack.BitcoinWireProofs
import Swapsack.VsizeProofs
import Swapsack.UtxoProofs
import Swapsack.RebuildProofs
import Swapsack.Bech32Proofs
import Swapsack.ZcashTxProofs
import Swapsack.ZcashProofs
import Swapsack.GatedProofs
import Swapsack.UriTextProofs
import Swapsack.AddressesProofs
import Swapsack.AccountingProofs
import Swapsack.VaultSwapProofs
import Swapsack.HexTextProofs
import Swapsack.EvmVaultProofs
import Swapsack.ChainflipProofs
import Swapsack.ZcashSighashProofs
import Swapsack.Zip317Proofs
import Swapsack.CosmosSignProofs
import Swapsack.LedgerProofs
import Swapsack.HistoryProofs
import Swapsack.SettleProofs
import Swapsack.CatchingProofs
import Swapsack.CborProofs
import Swapsack.CborRoundTripProofs
import Swapsack.CardanoTxProofs
import Swapsack.CardanoProofs
import Swapsack.CardanoFeeProofs
import Swapsack.CardanoSweepProofs
import Swapsack.ReplacementProofs
import Swapsack.TypoProofs
import Swapsack.PyJsonProofs
import Swapsack.CowProofs
import Swapsack.FailoverProofs
import Swapsack.HttpProofs
import Swapsack.CollectPagesProofs
import Swapsack.DashApiProofs
import Swapsack.DashProofs
import Swapsack.DashBroadcastProofs
import Swapsack.DashWalkProofs
import Swapsack.AllowanceProofs
import Swapsack.ApprovalsProofs
import Swapsack.OutboxProofs
import Swapsack.SymmetricProofs
import Swapsack.Base64Proofs
import Swapsack.JsonTextProofs
import Swapsack.KeystoreProofs
import Swapsack.KeystoreRunsProofs
import Swapsack.GreedyProofs
import Swapsack.SelectionCompleteProofs
import Swapsack.AbiProofs
import Swapsack.EvmVaultCallProofs
import Swapsack.PriceFloorProofs
import Swapsack.SpellingProofs
import Swapsack.ZcashRoundTripProofs
import Swapsack.BitsProofs
import Swapsack.ChecksumProofs
import Swapsack.Bech32RoundTripProofs
import Swapsack.SegwitProofs
import Swapsack.PyValueProofs
import Swapsack.QuoteParsingProofs
import Swapsack.RadixProofs
import Swapsack.ZcashAddressProofs
import Swapsack.CardanoOrderProofs
import Swapsack.CardanoSelectProofs
import Swapsack.CardanoReadBackProofs
import Swapsack.ToleranceProofs
import Swapsack.ScanProofs
import Swapsack.EsploraWalkProofs
import Swapsack.CardanoSweepErrorsProofs
import Swapsack.ChunkingProofs
import Swapsack.CardanoMemoProofs
import Swapsack.TronAddressProofs
import Swapsack.SweepProofs
import Swapsack.BackendsProofs
import Swapsack.EvmAdapterProofs
import Swapsack.PrepareSwapProofs
import Swapsack.EvmSweepProofs
import Swapsack.EvmLiquidityProofs
import Swapsack.TronSweepProofs
import Swapsack.WalletSweepProofs
import Swapsack.ReportProofs
import Swapsack.EmailDateProofs
import Swapsack.RetryAfterProofs
import Swapsack.GetWithFallbackProofs
import Swapsack.Ed25519Proofs
import Swapsack.CardanoKeysProofs
import Swapsack.CardanoOwnerProofs
import Swapsack.CrashFsProofs
import Swapsack.AtomicWriteProofs
import Swapsack.TraceProofs
import Swapsack.ExecuteProofs
import Swapsack.PollingProofs
import Swapsack.CowSessionProofs
import Swapsack.BumpRunsProofs
import Swapsack.CosmosAdapterProofs
import Swapsack.SymmetricAddProofs
import Swapsack.CoinSetProofs
import Swapsack.ZcashNetworkProofs
import Swapsack.LightwalletdProofs
