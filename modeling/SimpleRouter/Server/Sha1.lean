import SimpleRouter.Framework.SecureHash
import SimpleRouter.Model.Sha1

/-! # The code computes the standard's digest

    In whatever portions a message comes, the digest is that of the message as
    a whole. The code counts bits in two words, and gives up on a message when
    both have come back to zero: it has no result for 2 ^ 61 octets or more.

    * `process_digest`: a block is compressed.
    * `Streams`: the invariant between octets.
    * `sha1_result`: what comes out in the end.
-/

namespace SimpleRouter

open Framework Framework.Bytes SecureHash

/-! ### A block -/

theorem and_mask (x : uint32_t) : x &&& 0xffffffff = x := BitVec.and_allOnes

theorem circularShift_eq {bits : Nat} (h : bits < 32) (word : uint32_t) :
    SHA1CircularShift bits word = S bits word := by
  rw [SHA1CircularShift, and_mask, S, BitVec.rotateLeft_def, Nat.mod_eq_of_lt h]

/-- Four octets that are shifted to their places. -/
theorem join_shifted (a b c d : uint8_t) :
    (a.setWidth 32 <<< 24 ||| b.setWidth 32 <<< 16 ||| c.setWidth 32 <<< 8 ||| d.setWidth 32 :
      uint32_t) = a ++ b ++ c ++ d := by
  apply BitVec.eq_of_getLsbD_eq
  intro i hi
  simp only [BitVec.getLsbD_or, BitVec.getLsbD_shiftLeft, BitVec.getLsbD_setWidth,
    BitVec.getLsbD_append]
  grind

theorem first_words_eq (M : List uint8_t) : SHA1_first_words M = (List.range 16).map (W M) := by
  apply List.map_congr_left
  intro t ht
  rw [join_shifted, W, if_pos (List.mem_range.mp ht), wordAt, Nat.mul_comm 4 t]

/-- The words that were written are those of the standard, and so are the next ones. -/
theorem more_words_eq (M : List uint8_t) (n : Nat) {k : Nat} (hk : 16 ≤ k) :
    SHA1_more_words n ((List.range k).map (W M)) = (List.range (k + n)).map (W M) := by
  induction n generalizing k with
  | zero => rfl
  | succ n ih =>
    have hword : ∀ i < k, ((List.range k).map (W M)).getD i 0 = W M i := by
      intro i hi
      simp [List.getD_eq_getElem?_getD, hi]
    have hnext : (List.range k).map (W M) ++ [W M k] = (List.range (k + 1)).map (W M) := by
      rw [List.range_succ, List.map_append, List.map_singleton]
    have hW : W M k = S 1 (W M (k - 3) ^^^ W M (k - 8) ^^^ W M (k - 14) ^^^ W M (k - 16)) := by
      rw [W, if_neg (by omega)]
    rw [SHA1_more_words]
    simp only [List.length_map, List.length_range, hword (k - 3) (by omega),
      hword (k - 8) (by omega), hword (k - 14) (by omega), hword (k - 16) (by omega)]
    rw [circularShift_eq (by decide), ← hW, hnext, ih (by omega)]
    congr 2
    omega

/-- The word buffers, as the standard has them. -/
def SHA1Words.buffer (w : SHA1Words) : Buffer := ⟨w.A, w.B, w.C, w.D, w.E⟩

/-- One of the four loops does 20 rounds. -/
theorem loop_rounds (first : Nat) {M : List uint8_t}
    {g : uint32_t → uint32_t → uint32_t → uint32_t} {k : uint32_t} {w : SHA1Words} {H : Buffer}
    (hfirst : first + 20 ≤ 80)
    (hg : ∀ t, first ≤ t → t < first + 20 → f t = g ∧ K t = k)
    (hw : w.buffer = rounds M first H) :
    (SHA1_loop g k first ((List.range 80).map (W M)) w).buffer = rounds M (first + 20) H := by
  suffices hloop : ∀ n, n ≤ 20 → ((List.range' first n).foldl
      (fun w t => SHA1_round g k (((List.range 80).map (W M)).getD t 0) w) w).buffer =
        rounds M (first + n) H from hloop 20 (Nat.le_refl 20)
  intro n hn
  induction n with
  | zero => exact hw
  | succ n ih =>
    have hprev := ih (by omega)
    rw [List.range'_concat, List.foldl_append, Nat.one_mul, List.foldl_cons, List.foldl_nil]
    generalize (List.range' first n).foldl _ w = v at hprev ⊢
    obtain ⟨hf, hK⟩ := hg (first + n) (by omega) (by omega)
    have hword : ((List.range 80).map (W M)).getD (first + n) 0 = W M (first + n) := by
      have hlt : first + n < 80 := by omega
      simp [List.getD_eq_getElem?_getD, hlt]
    show _ = SecureHash.round M (first + n) (rounds M (first + n) H)
    rw [← hprev, hword]
    simp only [SHA1_round, SHA1Words.buffer, SecureHash.round, circularShift_eq (show 5 < 32 by decide),
      circularShift_eq (show 30 < 32 by decide), hf, hK, and_mask]

/-- The digest so far, as the standard has it. -/
def SHA1Context.buffer (context : SHA1Context) : Buffer :=
  (SHA1_words context.Message_Digest).buffer

/-- The four loops do all rounds. -/
theorem rounds_eq (M : List uint8_t) (w : SHA1Words) :
    (SHA1_rounds M w).buffer = rounds M 80 w.buffer := by
  have hwords : SHA1_more_words 64 (SHA1_first_words M) = (List.range 80).map (W M) := by
    rw [first_words_eq, more_words_eq M 64 (Nat.le_refl 16)]
  unfold SHA1_rounds
  simp only [hwords]
  apply loop_rounds 60 (by decide)
  · intro t hle _
    have h₁ : ¬ t < 20 := by omega
    have h₂ : ¬ t < 40 := by omega
    have h₃ : ¬ t < 60 := by omega
    refine ⟨?_, by rw [K, if_neg h₁, if_neg h₂, if_neg h₃]⟩
    funext B C D
    rw [f, if_neg h₁, if_neg h₂, if_neg h₃]
  apply loop_rounds 40 (by decide)
  · intro t hle hlt
    have h₁ : ¬ t < 20 := by omega
    have h₂ : ¬ t < 40 := by omega
    have h₃ : t < 60 := hlt
    refine ⟨?_, by rw [K, if_neg h₁, if_neg h₂, if_pos h₃]⟩
    funext B C D
    rw [f, if_neg h₁, if_neg h₂, if_pos h₃]
  apply loop_rounds 20 (by decide)
  · intro t hle hlt
    have h₁ : ¬ t < 20 := by omega
    have h₂ : t < 40 := hlt
    refine ⟨?_, by rw [K, if_neg h₁, if_pos h₂]⟩
    funext B C D
    rw [f, if_neg h₁, if_pos h₂]
  apply loop_rounds 0 (by decide)
  · intro t _ hlt
    have h₁ : t < 20 := by omega
    refine ⟨?_, by rw [K, if_pos h₁]⟩
    funext B C D
    rw [f, if_pos h₁]
  rfl

/-- **A block** is compressed. -/
theorem process_digest (context : SHA1Context) :
    (SHA1ProcessMessageBlock context).buffer =
      compress context.buffer context.Message_Block.toList := by
  have hrounds := rounds_eq context.Message_Block.toList (SHA1_words context.Message_Digest)
  have hbuffer : rounds context.Message_Block.toList 80 context.buffer = _ := hrounds.symm
  rw [compress, hbuffer]
  simp only [SHA1ProcessMessageBlock, SHA1Context.buffer, and_mask]
  rfl

/-! ### Octets -/

/-- **What the context holds** of the octets so far, while they can be counted. -/
structure Streams (message : List uint8_t) (context : SHA1Context) : Prop where
  buffer : context.buffer = foldBlocks 64 compress H₀ message
  index : context.Message_Block_Index = message.length % 64
  block : context.Message_Block.toList.take context.Message_Block_Index = leftover 64 message
  length : context.Length_High.toNat * 2 ^ 32 + context.Length_Low.toNat = 8 * message.length
  notComputed : context.Computed = false
  notCorrupted : context.Corrupted = false

theorem reset_streams (context : SHA1Context) : Streams [] (SHA1Reset context) where
  buffer := rfl
  index := rfl
  block := rfl
  length := by simp [SHA1Reset]
  notComputed := rfl
  notCorrupted := rfl

/-- An octet goes behind those that are there. -/
theorem take_set {n i : Nat} (block : Vector uint8_t n) (x : uint8_t) (h : i < n) :
    (block.set i x).toList.take (i + 1) = block.toList.take i ++ [x] := by
  have hlt : i < block.toList.length := by simpa using h
  rw [Vector.toList_set, List.take_succ_eq_append_getElem (by simpa using h),
    List.take_set_of_le (Nat.le_refl i)]
  simp

/-- What writing into the block does. -/
structure Written (context : SHA1Context) (octets : List uint8_t) (next : SHA1Context) : Prop where
  index : next.Message_Block_Index = context.Message_Block_Index + octets.length
  block : next.Message_Block.toList.take next.Message_Block_Index =
    context.Message_Block.toList.take context.Message_Block_Index ++ octets
  frame : next = { context with
    Message_Block := next.Message_Block, Message_Block_Index := next.Message_Block_Index }

theorem Written.buffer {context next : SHA1Context} {octets : List uint8_t}
    (h : Written context octets next) : next.buffer = context.buffer := by
  rw [h.frame]
  rfl

theorem Written.corrupted {context next : SHA1Context} {octets : List uint8_t}
    (h : Written context octets next) : next.Corrupted = context.Corrupted := by
  rw [h.frame]

theorem Written.lengths {context next : SHA1Context} {octets : List uint8_t}
    (h : Written context octets next) :
    next.Length_High.toNat * 2 ^ 32 + next.Length_Low.toNat =
      context.Length_High.toNat * 2 ^ 32 + context.Length_Low.toNat := by
  rw [h.frame]

section octets
variable {message : List uint8_t} {context : SHA1Context}

theorem put_written (h : context.Message_Block_Index < 64) (x : uint8_t) :
    ∃ next, SHA1_put context x = some next ∧ Written context [x] next := by
  have hput : SHA1_put context x = some { context with
      Message_Block := context.Message_Block.set context.Message_Block_Index x
      Message_Block_Index := context.Message_Block_Index + 1 } := by
    rw [SHA1_put, dif_pos h]
  exact ⟨_, hput, rfl, take_set _ x h, rfl⟩

/-- As many octets as there is room for can be written. -/
theorem puts_written {octets : List uint8_t}
    (h : context.Message_Block_Index + octets.length ≤ 64) :
    ∃ next, octets.foldlM SHA1_put context = some next ∧ Written context octets next := by
  induction octets generalizing context with
  | nil => exact ⟨context, rfl, rfl, (List.append_nil _).symm, rfl⟩
  | cons x octets ih =>
    rw [List.length_cons] at h
    obtain ⟨mid, hmid, hwritten⟩ := put_written (show context.Message_Block_Index < 64 by omega) x
    have hroom : mid.Message_Block_Index + octets.length ≤ 64 := by
      rw [hwritten.index, List.length_singleton]
      omega
    obtain ⟨next, hnext, hmore⟩ := ih hroom
    refine ⟨next, ?_, ?_, ?_, ?_⟩
    · rw [List.foldlM_cons, hmid]
      exact hnext
    · rw [hmore.index, hwritten.index, List.length_singleton, List.length_cons]
      omega
    · rw [hmore.block, hwritten.block, List.append_assoc, List.singleton_append]
    · rw [hmore.frame, hwritten.frame]

theorem Streams.index_lt (h : Streams message context) : context.Message_Block_Index < 64 := by
  rw [h.index]
  exact Nat.mod_lt _ (by decide)

theorem Streams.rest (h : Streams message context) :
    (leftover 64 message).length = context.Message_Block_Index := by
  rw [leftover_length, h.index]

/-- The bits are counted as long as there are less than `2 ^ 64`. -/
theorem count_length (context : SHA1Context) {n : Nat}
    (h : context.Length_High.toNat * 2 ^ 32 + context.Length_Low.toNat = 8 * n)
    (hclean : context.Corrupted = false) :
    if n + 1 < 2 ^ 61 then
      (SHA1_count context).Length_High.toNat * 2 ^ 32 + (SHA1_count context).Length_Low.toNat =
        8 * (n + 1) ∧ (SHA1_count context).Corrupted = false
    else (SHA1_count context).Corrupted = true := by
  have hhigh := context.Length_High.isLt
  have hlow := context.Length_Low.isLt
  have hadd (x y : uint32_t) : x + y = 0 ↔ (x.toNat + y.toNat) % 2 ^ 32 = 0 := by
    rw [← BitVec.toNat_inj, BitVec.toNat_add]
    rfl
  by_cases hcarry : context.Length_Low + 8 = 0
  · have hcarry' : (context.Length_Low.toNat + 8) % 2 ^ 32 = 0 := (hadd _ 8).mp hcarry
    by_cases hfull : context.Length_High + 1 = 0
    · have hfull' : (context.Length_High.toNat + 1) % 2 ^ 32 = 0 := (hadd _ 1).mp hfull
      rw [if_neg (by omega), SHA1_count]
      simp only [and_mask, if_pos hcarry, if_pos hfull]
    · have hfull' : ¬ (context.Length_High.toNat + 1) % 2 ^ 32 = 0 := mt (hadd _ 1).mpr hfull
      rw [if_pos (by omega), SHA1_count]
      simp only [and_mask, if_pos hcarry, if_neg hfull, hclean, and_true, BitVec.toNat_add]
      show (context.Length_High.toNat + 1) % 2 ^ 32 * 2 ^ 32 +
        (context.Length_Low.toNat + 8) % 2 ^ 32 = _
      have hlast : context.Length_Low.toNat + 8 = 2 ^ 32 := by omega
      rw [hcarry', Nat.mod_eq_of_lt (by omega), Nat.add_one_mul, Nat.mul_add_one 8 n, ← h,
        Nat.add_zero, Nat.add_assoc _ context.Length_Low.toNat, hlast]
  · have hcarry' : ¬ (context.Length_Low.toNat + 8) % 2 ^ 32 = 0 := mt (hadd _ 8).mpr hcarry
    rw [if_pos (by omega), SHA1_count]
    simp only [and_mask, if_neg hcarry, hclean, and_true, BitVec.toNat_add]
    show context.Length_High.toNat * 2 ^ 32 + (context.Length_Low.toNat + 8) % 2 ^ 32 = _
    omega

theorem count_frame (context : SHA1Context) :
    (SHA1_count context).Message_Block = context.Message_Block ∧
      (SHA1_count context).Message_Block_Index = context.Message_Block_Index ∧
      (SHA1_count context).buffer = context.buffer ∧
      (SHA1_count context).Computed = context.Computed := by
  unfold SHA1_count
  simp only
  split
  · split <;> exact ⟨rfl, rfl, rfl, rfl⟩
  · exact ⟨rfl, rfl, rfl, rfl⟩

/-- A block that has become full is worked off. -/
theorem process_full {more : List uint8_t}
    (hbuffer : context.buffer = foldBlocks 64 compress H₀ message)
    (hblock : context.Message_Block.toList = leftover 64 message ++ more) :
    (SHA1ProcessMessageBlock context).buffer = foldBlocks 64 compress H₀ (message ++ more) ∧
      leftover 64 (message ++ more) = [] := by
  have hportion : (leftover 64 message).length + more.length = 64 := by
    rw [← List.length_append, ← hblock, Vector.length_toList]
  refine ⟨?_, leftover_full hportion⟩
  rw [process_digest, hblock, hbuffer, foldBlocks_full hportion (by decide)]

/-- The body of the loop of `SHA1Input`, when the octet is in the block. -/
def SHA1_octet (context : SHA1Context) : SHA1Context :=
  let context := SHA1_count context
  if context.Message_Block_Index = 64 then SHA1ProcessMessageBlock context else context

theorem octet_frame (context : SHA1Context) :
    (SHA1_octet context).Length_High = (SHA1_count context).Length_High ∧
      (SHA1_octet context).Length_Low = (SHA1_count context).Length_Low ∧
      (SHA1_octet context).Computed = (SHA1_count context).Computed ∧
      (SHA1_octet context).Corrupted = (SHA1_count context).Corrupted := by
  unfold SHA1_octet
  simp only
  split <;> exact ⟨rfl, rfl, rfl, rfl⟩

/-- The block and the digest do not depend on the count. -/
theorem Streams.octet_block (h : Streams message context) {x : uint8_t} {put : SHA1Context}
    (hput : Written context [x] put) :
    (SHA1_octet put).buffer = foldBlocks 64 compress H₀ (message ++ [x]) ∧
      (SHA1_octet put).Message_Block_Index = (message ++ [x]).length % 64 ∧
      (SHA1_octet put).Message_Block.toList.take (SHA1_octet put).Message_Block_Index =
        leftover 64 (message ++ [x]) := by
  obtain ⟨hblock, hindex, hbuffer, -⟩ := count_frame put
  have hdigest := (hbuffer.trans hput.buffer).trans h.buffer
  have hputBlock := hput.block
  rw [h.block] at hputBlock
  unfold SHA1_octet
  simp only
  by_cases hfull : put.Message_Block_Index = 64
  · rw [if_pos (hindex.trans hfull)]
    have hwhole : (SHA1_count put).Message_Block.toList = leftover 64 message ++ [x] := by
      rw [hblock, ← hputBlock, hfull, List.take_of_length_le]
      exact Nat.le_of_eq Vector.length_toList
    obtain ⟨hworked, hnone⟩ := process_full hdigest hwhole
    refine ⟨hworked, ?_, ?_⟩
    · show 0 = _
      rw [← leftover_length, hnone, List.length_nil]
    · rw [hnone]
      rfl
  · have hportion : (leftover 64 message).length + [x].length < 64 := by
      have hlt := h.index_lt
      have hput := hput.index
      rw [List.length_singleton] at hput ⊢
      rw [h.rest]
      omega
    rw [if_neg (by rwa [hindex])]
    refine ⟨?_, ?_, ?_⟩
    · rw [foldBlocks_short hportion, hdigest]
    · rw [hindex, hput.index, ← leftover_length, leftover_short hportion, List.length_append,
        h.rest]
    · rw [hblock, hindex, hputBlock, leftover_short hportion]

/-- **One octet** is worked off, or there are too many. -/
theorem Streams.octet (h : Streams message context) {x : uint8_t} {put : SHA1Context}
    (hput : Written context [x] put) :
    (SHA1_octet put).Computed = false ∧
      if message.length + 1 < 2 ^ 61 then Streams (message ++ [x]) (SHA1_octet put)
      else (SHA1_octet put).Corrupted = true := by
  obtain ⟨hhigh, hlow, hcomputed, hcorrupted⟩ := octet_frame put
  obtain ⟨hbuffer, hindex, hblock⟩ := h.octet_block hput
  have hlength := count_length put
    (by rw [hput.frame]; exact h.length) (by rw [hput.frame]; exact h.notCorrupted)
  have hopen : (SHA1_octet put).Computed = false := by
    rw [hcomputed, (count_frame put).2.2.2, hput.frame]
    exact h.notComputed
  refine ⟨hopen, ?_⟩
  split
  · rename_i hlt
    rw [if_pos hlt] at hlength
    refine ⟨hbuffer, hindex, hblock, ?_, hopen, hcorrupted.trans hlength.2⟩
    rw [hhigh, hlow, hlength.1, List.length_append, List.length_singleton]
  · rename_i hlt
    rw [if_neg hlt] at hlength
    exact hcorrupted.trans hlength

end octets

/-! ### Portions -/

/-- The octets so far have been counted, or were too many. -/
def Collects (message : List uint8_t) (context : SHA1Context) : Prop :=
  context.Computed = false ∧
    if message.length < 2 ^ 61 then Streams message context else context.Corrupted = true

section portions
variable {message : List uint8_t} {context : SHA1Context}

theorem Collects.spoilt (h : Collects message context) (hlong : ¬ message.length < 2 ^ 61)
    (more : List uint8_t) : Collects (message ++ more) context := by
  obtain ⟨hcomputed, hrest⟩ := h
  rw [if_neg hlong] at hrest
  refine ⟨hcomputed, ?_⟩
  rw [if_neg]
  · exact hrest
  · rw [List.length_append]
    omega

theorem Collects.corrupted_iff (h : Collects message context) :
    context.Corrupted = true ↔ ¬ message.length < 2 ^ 61 := by
  have hrest := h.2
  split at hrest
  · rename_i hlt
    exact iff_of_false (by simp [hrest.notCorrupted]) (not_not_intro hlt)
  · rename_i hlong
    exact iff_of_true hrest hlong

theorem Collects.loop {portion : List uint8_t} (h : Collects message context) :
    ∃ next, SHA1Input_loop context portion = some next ∧ Collects (message ++ portion) next := by
  induction portion generalizing message context with
  | nil => exact ⟨context, rfl, by rwa [List.append_nil]⟩
  | cons x portion ih =>
    rw [SHA1Input_loop]
    split
    · rename_i hcorrupted
      exact ⟨context, rfl, h.spoilt (h.corrupted_iff.mp hcorrupted) _⟩
    · rename_i hclean
      have hshort : message.length < 2 ^ 61 := not_not.mp (mt h.corrupted_iff.mpr hclean)
      have hstreams := h.2
      rw [if_pos hshort] at hstreams
      obtain ⟨put, hput, hwritten⟩ := put_written hstreams.index_lt x
      have hnext : Collects (message ++ [x]) (SHA1_octet put) := by
        obtain ⟨hcomputed, hrest⟩ := hstreams.octet hwritten
        refine ⟨hcomputed, ?_⟩
        rwa [List.length_append, List.length_singleton]
      obtain ⟨next, hloop, hcollects⟩ := ih hnext
      refine ⟨next, ?_, ?_⟩
      · rw [hput]
        exact hloop
      · rwa [List.append_assoc, List.singleton_append] at hcollects

/-- **A portion** comes behind the others. -/
theorem Collects.input (h : Collects message context) (portion : List uint8_t) :
    ∃ next, SHA1Input context portion = some next ∧ Collects (message ++ portion) next := by
  unfold SHA1Input
  split
  · rename_i hnone
    refine ⟨context, rfl, ?_⟩
    rwa [List.eq_nil_of_length_eq_zero hnone, List.append_nil]
  · split
    · rename_i hspoilt
      have hcorrupted : context.Corrupted = true := by simpa [h.1] using hspoilt
      obtain ⟨hcomputed, hrest⟩ := h.spoilt (h.corrupted_iff.mp hcorrupted) portion
      refine ⟨_, rfl, hcomputed, ?_⟩
      rw [if_neg]
      have hlong := h.corrupted_iff.mp hcorrupted
      rw [List.length_append]
      omega
    · exact h.loop

theorem Collects.inputs (h : Collects message context) (portions : List (List uint8_t)) :
    ∃ next, portions.foldlM SHA1Input context = some next ∧
      Collects (message ++ portions.flatten) next := by
  induction portions generalizing message context with
  | nil => exact ⟨context, rfl, by rwa [List.flatten_nil, List.append_nil]⟩
  | cons portion portions ih =>
    obtain ⟨mid, hmid, hcollects⟩ := h.input portion
    obtain ⟨next, hnext, hall⟩ := ih hcollects
    refine ⟨next, ?_, ?_⟩
    · rw [List.foldlM_cons, hmid]
      exact hnext
    · rwa [List.flatten_cons, ← List.append_assoc]

end portions

/-! ### Padding -/

section padding
variable {message : List uint8_t} {context : SHA1Context}

theorem bind_of_eq {α β : Type} {x : Option α} {a : α} (h : x = some a) (f : α → Option β) :
    (x >>= f) = f a := by
  rw [h]
  rfl

theorem put_zeros_written {limit : Nat} (hlimit : limit ≤ 64)
    (h : context.Message_Block_Index ≤ limit) :
    ∃ next, SHA1_put_zeros limit context = some next ∧
      Written context (List.replicate (limit - context.Message_Block_Index) 0) next ∧
      next.Message_Block_Index = limit := by
  have hroom : context.Message_Block_Index +
      (List.replicate (limit - context.Message_Block_Index) (0 : uint8_t)).length ≤ 64 := by
    rw [List.length_replicate]
    omega
  obtain ⟨next, hnext, hwritten⟩ := puts_written hroom
  refine ⟨next, hnext, hwritten, ?_⟩
  rw [hwritten.index, List.length_replicate]
  omega

/-- An octet of a word. -/
theorem octet_eq (x : uint32_t) (shift : Nat) :
    (x >>> shift &&& 0xff).setWidth 8 = BitVec.ofNat 8 (x.toNat / 2 ^ shift) := by
  apply BitVec.eq_of_toNat_eq
  rw [BitVec.toNat_setWidth, BitVec.toNat_and, BitVec.toNat_ushiftRight, BitVec.toNat_ofNat,
    Nat.shiftRight_eq_div_pow]
  have hmask := Nat.and_two_pow_sub_one_eq_mod (x.toNat / 2 ^ shift) 8
  show (x.toNat / 2 ^ shift &&& 2 ^ 8 - 1) % 2 ^ 8 = _
  rw [hmask, Nat.mod_mod]

/-- The length in two words. -/
theorem high_octet {high low n : Nat} (h : high * 2 ^ 32 + low = 8 * n) (hlow : low < 2 ^ 32)
    (k : Nat) : 8 * n / 2 ^ (32 + k) = high / 2 ^ k := by
  rw [← h, Nat.pow_add, ← Nat.div_div_eq_div_mul, Nat.add_comm,
    Nat.add_mul_div_right _ _ (by decide), Nat.div_eq_of_lt hlow, Nat.zero_add]

theorem low_octet {high low n : Nat} (h : high * 2 ^ 32 + low = 8 * n) {k : Nat} (hk : k ≤ 24) :
    8 * n / 2 ^ k % 2 ^ 8 = low / 2 ^ k % 2 ^ 8 := by
  have hsplit : high * 2 ^ 32 = high * 2 ^ (24 - k) * 2 ^ 8 * 2 ^ k := by
    rw [Nat.mul_assoc, Nat.mul_assoc, ← Nat.pow_add, ← Nat.pow_add]
    congr 2
    omega
  rw [← h, hsplit, Nat.add_comm, Nat.add_mul_div_right _ _ (Nat.two_pow_pos k),
    Nat.add_mul_mod_self_right]

/-- The length goes behind 56 octets, and is what the standard has there. -/
theorem put_length_block {n : Nat}
    (h : context.Length_High.toNat * 2 ^ 32 + context.Length_Low.toNat = 8 * n) :
    (SHA1_put_length context).Message_Block.toList =
      context.Message_Block.toList.take 56 ++ lengthBytes n := by
  have hend (block : Vector uint8_t 64) : block.toList = block.toList.take (63 + 1) := by
    rw [List.take_of_length_le (Nat.le_of_eq Vector.length_toList)]
  have hhigh (k : Nat) : BitVec.ofNat 8 (8 * n / 2 ^ (32 + k)) =
      BitVec.ofNat 8 (context.Length_High.toNat / 2 ^ k) := by
    rw [high_octet h context.Length_Low.isLt]
  have hlow {k : Nat} (hk : k ≤ 24) : BitVec.ofNat 8 (8 * n / 2 ^ k) =
      BitVec.ofNat 8 (context.Length_Low.toNat / 2 ^ k) := by
    apply BitVec.eq_of_toNat_eq
    rw [BitVec.toNat_ofNat, BitVec.toNat_ofNat, low_octet h hk]
  have hlength : lengthBytes n = [24, 16, 8, 0].map (fun k =>
      BitVec.ofNat 8 (context.Length_High.toNat / 2 ^ k)) ++ [24, 16, 8, 0].map (fun k =>
      BitVec.ofNat 8 (context.Length_Low.toNat / 2 ^ k)) := by
    simp only [List.map_cons, List.map_nil, ← hhigh, ← hlow (Nat.le_refl 24),
      ← hlow (show 16 ≤ 24 by decide), ← hlow (show 8 ≤ 24 by decide),
      ← hlow (show 0 ≤ 24 by decide)]
    rfl
  rw [hend]
  simp only [SHA1_put_length]
  rw [take_set, take_set, take_set, take_set, take_set, take_set, take_set, take_set, hlength]
  simp only [octet_eq, List.append_assoc]
  rfl

/-- The last block is worked off. -/
theorem process_last {n : Nat} {more : List uint8_t}
    (hbuffer : context.buffer = foldBlocks 64 compress H₀ message)
    (hblock : context.Message_Block.toList.take 56 = leftover 64 message ++ more)
    (hlength : context.Length_High.toNat * 2 ^ 32 + context.Length_Low.toNat = 8 * n) :
    (SHA1ProcessMessageBlock (SHA1_put_length context)).buffer =
      foldBlocks 64 compress H₀ (message ++ (more ++ lengthBytes n)) := by
  have hwhole : (SHA1_put_length context).Message_Block.toList =
      leftover 64 message ++ (more ++ lengthBytes n) := by
    rw [put_length_block hlength, hblock, List.append_assoc]
  have hsame : (SHA1_put_length context).buffer = context.buffer := rfl
  exact (process_full (hsame.trans hbuffer) hwhole).1

/-- The first of two blocks. -/
theorem process_first (h : Streams message context) {one full : SHA1Context}
    {more : List uint8_t} (hone : Written context [0x80] one)
    (hfull : Written one more full) (hindex : full.Message_Block_Index = 64) :
    (SHA1ProcessMessageBlock full).buffer = foldBlocks 64 compress H₀ (message ++ 0x80 :: more) ∧
      leftover 64 (message ++ 0x80 :: more) = [] := by
  apply process_full ((hfull.buffer.trans hone.buffer).trans h.buffer)
  have hblock := hfull.block
  rw [hindex, List.take_of_length_le (Nat.le_of_eq Vector.length_toList), hone.block,
    h.block] at hblock
  rw [hblock, List.append_assoc, List.singleton_append]

theorem Streams.zeros_eq (h : Streams message context) :
    zeros message.length = (119 - context.Message_Block_Index) % 64 := by
  rw [zeros, ← h.index]

/-- The second one has zeros and the length only. -/
theorem process_second {n : Nat} (hbuffer : context.buffer = foldBlocks 64 compress H₀ message)
    (hnone : leftover 64 message = []) (hindex : context.Message_Block_Index = 0)
    (hlength : context.Length_High.toNat * 2 ^ 32 + context.Length_Low.toNat = 8 * n) :
    ∃ next, SHA1_put_zeros 56 context = some next ∧
      (SHA1ProcessMessageBlock (SHA1_put_length next)).buffer =
        foldBlocks 64 compress H₀ (message ++ (List.replicate 56 0 ++ lengthBytes n)) ∧
      next.Corrupted = context.Corrupted := by
  obtain ⟨next, hnext, hrest, hnextIndex⟩ :=
    put_zeros_written (show 56 ≤ 64 by decide) (show context.Message_Block_Index ≤ 56 by omega)
  refine ⟨next, hnext, ?_, hrest.corrupted⟩
  apply process_last (hrest.buffer.trans hbuffer)
  · have hblock := hrest.block
    rw [hnextIndex, hindex, List.take_zero, Nat.sub_zero] at hblock
    rw [hblock, hnone]
  · rw [hrest.lengths, hlength]

/-- When there is no room for the length, it goes into a block of its own. -/
theorem Streams.pad_two (h : Streams message context) (hroom : 55 < context.Message_Block_Index) :
    ∃ next, SHA1PadMessage context = some next ∧ next.buffer = digest message ∧
      next.Corrupted = false := by
  have hlt := h.index_lt
  obtain ⟨one, hone, hwritten⟩ := put_written hlt 0x80
  have hindex : one.Message_Block_Index = context.Message_Block_Index + 1 := hwritten.index
  obtain ⟨full, hfull, hrest, hfullIndex⟩ :=
    put_zeros_written (Nat.le_refl 64) (show one.Message_Block_Index ≤ 64 by omega)
  obtain ⟨hworked, hnone⟩ := process_first h hwritten hrest hfullIndex
  have hlength := (hrest.lengths.trans hwritten.lengths).trans h.length
  obtain ⟨last, hlast, hdigest, hclean⟩ :=
    process_second hworked hnone rfl hlength
  refine ⟨SHA1ProcessMessageBlock (SHA1_put_length last), ?_, ?_, ?_⟩
  · rw [SHA1PadMessage, if_pos hroom, bind_of_eq hone, bind_of_eq hfull, bind_of_eq hlast]
    rfl
  · have hzeros : zeros message.length = (64 - one.Message_Block_Index) + 56 := by
      rw [h.zeros_eq, hindex]
      omega
    rw [hdigest, digest, SecureHash.pad, SecureHash.padding, hzeros, List.replicate_add]
    simp only [List.append_assoc, List.cons_append]
  · show last.Corrupted = false
    rw [hclean, ← h.notCorrupted, ← hwritten.corrupted, ← hrest.corrupted]
    rfl

/-- Else it goes into the same one. -/
theorem Streams.pad_one (h : Streams message context)
    (hroom : ¬ 55 < context.Message_Block_Index) :
    ∃ next, SHA1PadMessage context = some next ∧ next.buffer = digest message ∧
      next.Corrupted = false := by
  obtain ⟨one, hone, hwritten⟩ := put_written h.index_lt 0x80
  have hindex : one.Message_Block_Index = context.Message_Block_Index + 1 := hwritten.index
  obtain ⟨last, hlast, hrest, hlastIndex⟩ :=
    put_zeros_written (show 56 ≤ 64 by decide) (show one.Message_Block_Index ≤ 56 by omega)
  have hblock : last.Message_Block.toList.take 56 =
      leftover 64 message ++ (0x80 :: List.replicate (56 - one.Message_Block_Index) 0) := by
    have hblock := hrest.block
    rw [hlastIndex, hwritten.block, h.block, List.append_assoc, List.singleton_append] at hblock
    exact hblock
  have hlength : last.Length_High.toNat * 2 ^ 32 + last.Length_Low.toNat = 8 * message.length := by
    rw [hrest.lengths, hwritten.lengths, h.length]
  refine ⟨SHA1ProcessMessageBlock (SHA1_put_length last), ?_, ?_, ?_⟩
  · rw [SHA1PadMessage, if_neg hroom, bind_of_eq hone, bind_of_eq hlast]
    rfl
  · have hzeros : zeros message.length = 56 - one.Message_Block_Index := by
      rw [h.zeros_eq, hindex]
      omega
    rw [process_last ((hrest.buffer.trans hwritten.buffer).trans h.buffer) hblock hlength,
      digest, SecureHash.pad, SecureHash.padding, hzeros, List.cons_append]
  · show last.Corrupted = false
    rw [hrest.corrupted, hwritten.corrupted, h.notCorrupted]

/-- **The padding** of the standard is worked off. -/
theorem Streams.pad (h : Streams message context) :
    ∃ next, SHA1PadMessage context = some next ∧ next.buffer = digest message ∧
      next.Corrupted = false := by
  by_cases hroom : 55 < context.Message_Block_Index
  · exact h.pad_two hroom
  · exact h.pad_one hroom

end padding

/-! ### The result -/

/-- What has been collected comes to its digest. -/
theorem Collects.result {message : List uint8_t} {context : SHA1Context}
    (h : Collects message context) (hlength : message.length < 2 ^ 61) :
    ∃ result, SHA1Result context = some (result, true) ∧ result.buffer = digest message ∧
      result.Computed = true ∧ result.Corrupted = false := by
  obtain ⟨hcomputed, hrest⟩ := h
  rw [if_pos hlength] at hrest
  obtain ⟨padded, hpadded, hdigest, hclean⟩ := hrest.pad
  refine ⟨{ padded with Computed := true }, ?_, hdigest, rfl, hclean⟩
  unfold SHA1Result
  simp [hrest.notCorrupted, hcomputed, hpadded]

/-- A context that is spoilt takes nothing more. -/
theorem inputs_of_corrupted {context : SHA1Context} (h : context.Corrupted = true)
    (portions : List (List uint8_t)) : portions.foldlM SHA1Input context = some context := by
  have hsame : { context with Corrupted := true } = context := by rw [← h]
  induction portions with
  | nil => rfl
  | cons portion portions ih =>
    have hinput : SHA1Input context portion = some context := by
      unfold SHA1Input
      split
      · rfl
      · rw [if_pos (Or.inr h), hsame]
    rw [List.foldlM_cons, hinput]
    exact ih

/-- Octets that come when there is a result spoil it for good. -/
theorem inputs_of_computed {context : SHA1Context} (h : context.Computed = true)
    {portions : List (List uint8_t)} (hne : portions.flatten ≠ []) :
    portions.foldlM SHA1Input context = some { context with Corrupted := true } := by
  induction portions with
  | nil => exact absurd rfl hne
  | cons portion portions ih =>
    rw [List.foldlM_cons]
    unfold SHA1Input
    by_cases hempty : portion = []
    · subst hempty
      exact ih (by simpa using hne)
    · rw [if_neg (mt List.eq_nil_of_length_eq_zero hempty), if_pos (Or.inl h)]
      exact inputs_of_corrupted rfl portions

/-- **The digest**: however a message comes in portions, nothing is written outside of the
    block. There is a result exactly for a message of less than `2 ^ 61` octets, it is the
    digest of the standard, asking again does not change it, and any octets that come after it,
    in whatever portions, spoil it for good. -/
theorem sha1_result (context : SHA1Context) (portions : List (List uint8_t)) :
    ∃ collected result ok, portions.foldlM SHA1Input (SHA1Reset context) = some collected ∧
      SHA1Result collected = some (result, ok) ∧
      (ok = true ↔ portions.flatten.length < 2 ^ 61) ∧
      (ok = true → result.buffer = digest portions.flatten ∧
        SHA1Result result = some (result, true) ∧
        ∀ more : List (List uint8_t), more.flatten ≠ [] →
          ∃ spoilt, more.foldlM SHA1Input result = some spoilt ∧
            SHA1Result spoilt = some (spoilt, false)) := by
  have hstart : Collects [] (SHA1Reset context) := ⟨rfl, reset_streams context⟩
  obtain ⟨collected, hcollected, hcollects⟩ := hstart.inputs portions
  rw [List.nil_append] at hcollects
  by_cases hlength : portions.flatten.length < 2 ^ 61
  · obtain ⟨result, hresult, hdigest, hcomputed, hclean⟩ := hcollects.result hlength
    refine ⟨collected, result, true, hcollected, hresult, iff_of_true rfl hlength, fun _ => ?_⟩
    refine ⟨hdigest, ?_, ?_⟩
    · unfold SHA1Result
      simp [hclean, hcomputed]
    · intro more hmore
      exact ⟨{ result with Corrupted := true }, inputs_of_computed hcomputed hmore, rfl⟩
  · refine ⟨collected, collected, false, hcollected, ?_, ?_, ?_⟩
    · unfold SHA1Result
      rw [if_pos (hcollects.corrupted_iff.mpr hlength)]
    · exact iff_of_false (by decide) hlength
    · intro hok
      exact absurd hok (by decide)

end SimpleRouter
