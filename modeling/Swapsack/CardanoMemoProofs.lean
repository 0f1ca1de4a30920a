import Swapsack.CardanoTxProofs
import Swapsack.ChunkingProofs

/-! # The memo of a Cardano deposit

    A metadata string of the ledger holds at most 64 bytes, so a memo is cut
    between its characters into strings that do.

    * `memoChunks_fill` — the loop fills one chunk after the other;
    * `memoFromMetadata_metadataForMemo` — the message of a memo is the memo;
    * `memoChunks_cut` — so the chunks join to the memo, fit, are not empty and
      could not be fewer, and the message reads back. -/

namespace SwapsackCardanoTx

open ListKit ByteString SwapsackBase Chunking
open Cbor (Value)

/-! ## Bytes of a text -/

/-- A text has the bytes of its characters. -/
theorem encodeUtf8_length (s : String) :
    (encodeUtf8 s).length = total Char.utf8Size s.toList := by
  have hbytes : encodeUtf8 s = s.toList.flatMap String.utf8EncodeChar := by
    rw [encodeUtf8, ← String.utf8Encode_toList, List.utf8Encode, List.data_toByteArray]
  rw [hbytes, List.length_flatMap, total]
  exact congrArg List.sum (List.map_congr_left fun c _ => String.length_utf8EncodeChar c)

/-! ## The chunks -/

/-- From any chunk on, the loop fills chunks of characters by their bytes. -/
theorem chunkLoop_fill (chars : List Char) :
    ∀ current : String, chunkLoop chars current
      = (fill Char.utf8Size metadataChunk chars current.toList).map String.ofList := by
  induction chars with
  | nil =>
      intro current
      rw [chunkLoop, fill, List.map_singleton, String.ofList_toList]
  | cons char rest ih =>
      intro current
      have hpush : (current.push char).toList = current.toList ++ [char] := String.toList_push ..
      have hfull : (current ≠ "" ∧ metadataChunk < (encodeUtf8 (current.push char)).length)
          ↔ (current.toList ≠ []
            ∧ metadataChunk < total Char.utf8Size (current.toList ++ [char])) := by
        rw [encodeUtf8_length, hpush, ne_eq, ne_eq, String.toList_eq_nil_iff]
      rw [chunkLoop, fill]
      by_cases h : current ≠ "" ∧ metadataChunk < (encodeUtf8 (current.push char)).length
      · rw [if_pos h, if_pos (hfull.mp h), List.map_cons, String.ofList_toList, ih,
          String.toList_push, String.toList_empty, List.nil_append]
      · rw [if_neg h, if_neg (mt hfull.mpr h), ih, hpush]

/-- **The loop fills one chunk after the other.** -/
theorem memoChunks_fill (memo : String) : memoChunks memo
    = (fill Char.utf8Size metadataChunk memo.toList []).map String.ofList :=
  chunkLoop_fill memo.toList ""

/-- Texts join as their characters do. -/
theorem join_ofList (chunks : List (List Char)) :
    String.join (chunks.map String.ofList) = String.ofList chunks.flatten := by
  induction chunks with
  | nil => rfl
  | cons chunk chunks ih =>
      rw [List.map_cons, String.join_cons, ih, List.flatten_cons, String.ofList_append]

/-- **The chunks of a memo join to the memo.** -/
theorem join_memoChunks (memo : String) : String.join (memoChunks memo) = memo := by
  rw [memoChunks_fill, join_ofList, fill_flatten, List.nil_append, String.ofList_toList]

theorem asText_text (text : String) : asText (.text text) = .ok (id text) := rfl

/-- **The message of a memo is the memo.** -/
theorem memoFromMetadata_metadataForMemo (memo : String) :
    memoFromMetadata (metadataForMemo memo) = .ok (some (encodeUtf8 memo)) := by
  have hread : memoFromMetadata (metadataForMemo memo)
      = ((memoChunks memo).map Value.text).mapM asText
        >>= fun texts => .ok (some (encodeUtf8 (String.join texts))) := rfl
  rw [hread, mapM_map_ok asText_text, List.map_id, ok_bind, join_memoChunks]

/-! ## What the ledger wants -/

/-- A character is shorter than a chunk. -/
theorem utf8Size_le_chunk (c : Char) : c.utf8Size ≤ metadataChunk :=
  (Char.utf8Size_le_four c).trans (by decide)

/-- `next` begins with a character that `chunk` had no room for. -/
def CutAt (chunk next : String) : Prop :=
  ∃ char rest, next.toList = char :: rest
    ∧ metadataChunk < (encodeUtf8 (chunk.push char)).length

/-- **A memo is cut as the ledger wants it**: its chunks join to it, each has at most
    64 bytes, none is empty unless the memo is, none could have taken the first
    character of the next, and the message they make is the memo's bytes. -/
theorem memoChunks_cut (memo : String) :
    String.join (memoChunks memo) = memo
    ∧ (∀ chunk ∈ memoChunks memo, (encodeUtf8 chunk).length ≤ 64)
    ∧ ("" ∈ memoChunks memo → memo = "")
    ∧ (memoChunks memo).IsChain CutAt
    ∧ memoFromMetadata (metadataForMemo memo) = .ok (some (encodeUtf8 memo)) := by
  refine ⟨join_memoChunks memo, ?_, ?_, ?_, memoFromMetadata_metadataForMemo memo⟩
  · intro chunk hchunk
    rw [memoChunks_fill] at hchunk
    obtain ⟨chars, hchars, rfl⟩ := List.mem_map.mp hchunk
    rw [encodeUtf8_length, String.toList_ofList]
    exact fill_within (fun c _ => utf8Size_le_chunk c) (Nat.zero_le _) chars hchars
  · intro hempty
    rw [memoChunks_fill] at hempty
    obtain ⟨chars, hchars, hchunk⟩ := List.mem_map.mp hempty
    have hnil : chars = [] := by
      rw [← String.toList_ofList (l := chars), hchunk]
      rfl
    by_contra hmemo
    exact fill_nil_ne_nil (mt String.toList_eq_nil_iff.mp hmemo) chars hchars hnil
  · rw [memoChunks_fill, List.isChain_map]
    refine (fill_isChain memo.toList []).imp ?_
    rintro chunk next ⟨char, rest, rfl, hover⟩
    refine ⟨char, rest, String.toList_ofList, ?_⟩
    rw [encodeUtf8_length, String.toList_push, String.toList_ofList]
    exact hover

end SwapsackCardanoTx
