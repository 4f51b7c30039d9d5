import OrderDesk.Cipher.Gcm
import OrderDesk.Digest

/-!
Opening what has been sealed. The blocks of the cipher all have sixteen bytes, so the key stream is
as long as the text that it masks, and masking twice gives the text back.
-/

namespace OrderDesk

namespace Bytes

theorem length_xor (first second : Bytes) :
    (xor first second).length = min first.length second.length :=
  List.length_zipWith

theorem length_bigEndian (width number : Nat) : (bigEndian width number).length = width := by
  simp [bigEndian]

theorem xor_xor {text mask : Bytes} (covered : text.length ≤ mask.length) :
    xor (xor text mask) mask = text := by
  induction text generalizing mask with
  | nil => rfl
  | cons byte rest induction =>
    cases mask with
    | nil => exact absurd covered (by simp)
    | cons maskByte mask =>
      have tail : xor (xor rest mask) mask = rest := induction (by simpa using covered)
      simp only [xor, List.zipWith_cons_cons] at tail ⊢
      rw [UInt8.xor_assoc, UInt8.xor_self, UInt8.xor_zero, tail]

theorem blocksWithin_whole {size count number : Nat} {bytes : Bytes} (positive : 0 < size)
    (whole : bytes.length = size * number) (enough : number ≤ count) :
    (blocksWithin size count bytes).length = number ∧
      ∀ block ∈ blocksWithin size count bytes, block.length = size := by
  induction number generalizing count bytes with
  | zero =>
    have empty : bytes = [] := List.length_eq_zero_iff.mp whole
    cases count <;> simp [empty, blocksWithin]
  | succ number induction =>
    cases count with
    | zero => exact absurd enough (Nat.not_succ_le_zero number)
    | succ count =>
      have long : size ≤ bytes.length := by rw [whole, Nat.mul_succ]; omega
      have dropped : (bytes.drop size).length = size * number := by
        rw [List.length_drop, whole, Nat.mul_succ, Nat.add_sub_cancel]
      rcases induction dropped (Nat.le_of_succ_le_succ enough) with ⟨length, sizes⟩
      have cut : blocksWithin size (count + 1) bytes =
          bytes.take size :: blocksWithin size count (bytes.drop size) := by
        cases bytes with
        | nil => exact absurd long (by simp; omega)
        | cons byte rest => rfl
      rw [cut]
      exact ⟨congrArg Nat.succ length,
        List.forall_mem_cons.mpr ⟨List.length_take_of_le long, sizes⟩⟩

theorem blocks_whole {size number : Nat} {bytes : Bytes} (positive : 0 < size)
    (whole : bytes.length = size * number) :
    (blocks size bytes).length = number ∧ ∀ block ∈ blocks size bytes, block.length = size :=
  blocksWithin_whole positive whole (whole ▸ Nat.le_mul_of_pos_left number positive)

end Bytes

theorem Sha256.length_digest (message : Bytes) : (digest message).length = 32 := by
  simp [digest, State.bytes, Bytes.length_bigEndian]

namespace Aes

/-! ## Sizes of words, round keys and blocks -/

theorem length_scheduleWord {place : Nat} {mark : UInt8} {previous eighthBefore : Bytes}
    (first : previous.length = 4) (second : eighthBefore.length = 4) :
    (scheduleWord place mark previous eighthBefore).length = 4 := by
  rw [scheduleWord, Bytes.length_xor, second]
  split
  · simp [Bytes.length_xor, first]
  · split <;> simp [first]

theorem extendSchedule_words {place : Nat} {mark : UInt8} {window : List Bytes} {count : Nat}
    (eight : window.length = 8) (sizes : ∀ word ∈ window, word.length = 4) :
    (extendSchedule place mark window count).length = count ∧
      ∀ word ∈ extendSchedule place mark window count, word.length = 4 := by
  induction count generalizing place mark window with
  | zero => exact ⟨rfl, nofun⟩
  | succ count induction =>
    have present : window ≠ [] := by
      rintro rfl
      cases eight
    have last : (window.getLastD []).length = 4 := by
      rw [List.getLastD_eq_getLast?, List.getLast?_eq_some_getLast present]
      exact sizes _ (List.getLast_mem present)
    have first : (window.headD []).length = 4 := by
      rw [List.headD_eq_head?_getD, List.head?_eq_some_head present]
      exact sizes _ (List.head_mem present)
    have word : (scheduleWord place mark (window.getLastD []) (window.headD [])).length = 4 :=
      length_scheduleWord last first
    have next := @induction (place + 1) (if place % 8 = 0 then double mark else mark)
      (window.drop 1 ++ [scheduleWord place mark (window.getLastD []) (window.headD [])])
      (by simp [eight])
      (by
        intro other member
        rcases List.mem_append.mp member with old | new
        · exact sizes other (List.mem_of_mem_drop old)
        · rw [List.mem_singleton.mp new]
          exact word)
    exact ⟨congrArg Nat.succ next.1, List.forall_mem_cons.mpr ⟨word, next.2⟩⟩

structure Scheduled (keys : List Bytes) : Prop where
  number : keys.length = 15
  sizes : ∀ key ∈ keys, key.length = 16

theorem scheduled_roundKeys {key : Bytes} (size : key.length = 32) : Scheduled (roundKeys key) := by
  have whole : key.length = 4 * 8 := size
  rcases Bytes.blocks_whole (by decide) whole with ⟨eight, sizes⟩
  have extended : (extendSchedule 8 1 (Bytes.blocks 4 key) 52).length = 52 ∧
      ∀ word ∈ extendSchedule 8 1 (Bytes.blocks 4 key) 52, word.length = 4 :=
    extendSchedule_words eight sizes
  rcases extended with ⟨rest, words⟩
  have all : ∀ word ∈ Bytes.blocks 4 key ++ extendSchedule 8 1 (Bytes.blocks 4 key) 52,
      word.length = 4 := List.forall_mem_append.mpr ⟨sizes, words⟩
  have flat : (Bytes.blocks 4 key ++
      extendSchedule 8 1 (Bytes.blocks 4 key) 52).flatten.length = 16 * 15 := by
    rw [List.length_flatten, List.map_congr_left all, List.map_const', List.sum_replicate_nat,
      List.length_append, eight, rest]
  rcases Bytes.blocks_whole (by decide) flat with ⟨number, sizes⟩
  exact ⟨number, sizes⟩

theorem length_shiftRows (state : Bytes) : (shiftRows state).length = state.length := by
  rw [shiftRows.eq_def]
  split <;> rfl

theorem length_mixColumns (state : Bytes) : (mixColumns state).length = state.length := by
  fun_induction mixColumns state with
  | case1 a b c d rest induction => simp [mixColumn, induction]
  | case2 => rfl

theorem length_encryptRounds {state : Bytes} {keys : List Bytes} (size : state.length = 16)
    (sizes : ∀ key ∈ keys, key.length = 16) : (encryptRounds state keys).length = 16 := by
  fun_induction encryptRounds state keys with
  | case1 => exact size
  | case2 state last =>
    rw [Bytes.length_xor, length_shiftRows, List.length_map, size,
      sizes last (List.mem_singleton_self last)]
    rfl
  | case3 state key rest _ induction =>
    refine induction ?_ fun other member => sizes other (List.mem_cons_of_mem key member)
    rw [Bytes.length_xor, length_mixColumns, length_shiftRows, List.length_map, size,
      sizes key (List.mem_cons_self ..)]
    rfl

theorem length_encryptBlock {keys : List Bytes} {block : Bytes} (scheduled : Scheduled keys)
    (size : block.length = 16) : (encryptBlock keys block).length = 16 := by
  cases keys with
  | nil => exact absurd scheduled.number (by decide)
  | cons key rest =>
    refine length_encryptRounds ?_ fun other member =>
      scheduled.sizes other (List.mem_cons_of_mem key member)
    rw [Bytes.length_xor, size, List.headD_cons, scheduled.sizes key (List.mem_cons_self ..)]
    rfl

end Aes

/-- What has been sealed can be opened again. -/
def Aead.Opens (aead : Aead) : Prop :=
  ∀ key nonce plaintext : Bytes, key.length = 32 →
    aead.openText? key nonce (aead.sealText key nonce plaintext) = some plaintext

namespace Gcm

variable {key nonce text : Bytes}

theorem length_firstCounter (hashKey : Nat) (nonce : Bytes) :
    (firstCounter hashKey nonce).length = 16 := by
  rw [firstCounter]
  split
  · next twelve => simp [twelve]
  · exact Bytes.length_bigEndian _ _

theorem length_counterAfter {counter : Bytes} (size : counter.length = 16) (steps : Nat) :
    (counterAfter counter steps).length = 16 := by
  rw [counterAfter, List.length_append, List.length_take, size, Bytes.length_bigEndian]
  rfl

theorem length_keyStream {keys : List Bytes} {counter : Bytes} (scheduled : Aes.Scheduled keys)
    (size : counter.length = 16) (length : Nat) :
    (keyStream keys counter length).length = length := by
  have blocks (place : Nat) : (Aes.encryptBlock keys (counterAfter counter (place + 1))).length = 16 :=
    Aes.length_encryptBlock scheduled (length_counterAfter size _)
  rw [keyStream, List.length_take, List.length_flatMap]
  simp only [blocks, List.map_const', List.length_range, List.sum_replicate_nat, blockSize]
  omega

section

variable (size : key.length = 32)

include size

theorem length_keyStream_make (length : Nat) :
    (keyStream (Stream.make key nonce).keys (Stream.make key nonce).counter length).length =
      length :=
  length_keyStream (Aes.scheduled_roundKeys size) (length_firstCounter ..) length

theorem length_apply : ((Stream.make key nonce).apply text).length = text.length := by
  rw [Stream.apply, Bytes.length_xor, length_keyStream_make size, Nat.min_self]

theorem length_tag : ((Stream.make key nonce).tag text).length = tagSize := by
  have mask : (Aes.encryptBlock (Stream.make key nonce).keys
      (Stream.make key nonce).counter).length = 16 :=
    Aes.length_encryptBlock (Aes.scheduled_roundKeys size) (length_firstCounter ..)
  rw [Stream.tag, Bytes.length_xor, Bytes.length_bigEndian, mask]
  rfl

theorem apply_apply : (Stream.make key nonce).apply ((Stream.make key nonce).apply text) = text := by
  rw [Stream.apply, length_apply size, Stream.apply]
  exact Bytes.xor_xor (Nat.le_of_eq (length_keyStream_make size text.length).symm)

end

theorem opens_aead : aead.Opens := by
  intro key nonce plaintext size
  have whole : (sealText key nonce plaintext).length - tagSize =
      ((Stream.make key nonce).apply plaintext).length := by
    rw [sealText, List.length_append, length_tag size, Nat.add_sub_cancel]
  change openText? key nonce (sealText key nonce plaintext) = some plaintext
  rw [openText?, whole, sealText, List.take_left, List.drop_left, if_pos rfl, apply_apply size]

end Gcm

end OrderDesk
