import SimpleRouter.Model.Protocol

/-! # SHA-1 (`sha1.c`, `sha1.h`)

    The octets of a message come in portions and are collected in
    `Message_Block`, which is processed whenever it is full. A write outside of
    that array is an overrun, for which there is no result.
-/

namespace SimpleRouter

open Framework Framework.Bytes

structure SHA1Context where
  Message_Digest : Vector uint32_t 5
  Length_Low : uint32_t
  Length_High : uint32_t
  Message_Block : Vector uint8_t 64
  Message_Block_Index : Nat
  Computed : Bool
  Corrupted : Bool
  deriving DecidableEq

/-- The macro, which shifts in a circle. -/
def SHA1CircularShift (bits : Nat) (word : uint32_t) : uint32_t :=
  word <<< bits &&& 0xffffffff ||| word >>> (32 - bits)

def SHA1Reset (context : SHA1Context) : SHA1Context :=
  { context with
    Length_Low := 0
    Length_High := 0
    Message_Block_Index := 0
    Message_Digest := #v[0x67452301, 0xefcdab89, 0x98badcfe, 0x10325476, 0xc3d2e1f0]
    Computed := false
    Corrupted := false }

/-! ### Blocks -/

/-- Initialize the first 16 words in the array `W`. -/
def SHA1_first_words (block : List uint8_t) : List uint32_t :=
  (List.range 16).map fun t =>
    (u8 block (t * 4)).setWidth 32 <<< 24 ||| (u8 block (t * 4 + 1)).setWidth 32 <<< 16 |||
      (u8 block (t * 4 + 2)).setWidth 32 <<< 8 ||| (u8 block (t * 4 + 3)).setWidth 32

/-- `for(t = 16; t < 80; t++)`, with as many rounds to go; `W` is as far as it was written. -/
def SHA1_more_words : Nat → List uint32_t → List uint32_t
  | 0, W => W
  | n + 1, W =>
    let t := W.length
    SHA1_more_words n (W ++ [SHA1CircularShift 1
      (W.getD (t - 3) 0 ^^^ W.getD (t - 8) 0 ^^^ W.getD (t - 14) 0 ^^^ W.getD (t - 16) 0)])

/-- The word buffers. -/
structure SHA1Words where
  A : uint32_t
  B : uint32_t
  C : uint32_t
  D : uint32_t
  E : uint32_t
  deriving DecidableEq

/-- The word buffers at the start of a block. -/
def SHA1_words (H : Vector uint32_t 5) : SHA1Words := ⟨H[0], H[1], H[2], H[3], H[4]⟩

/-- The body of the four loops, which differ in a function of `B`, `C` and `D` and in `K`. -/
def SHA1_round (f : uint32_t → uint32_t → uint32_t → uint32_t) (K W : uint32_t)
    (w : SHA1Words) : SHA1Words :=
  let temp := (SHA1CircularShift 5 w.A + f w.B w.C w.D + w.E + W + K) &&& 0xffffffff
  ⟨temp, w.A, SHA1CircularShift 30 w.B, w.C, w.D⟩

/-- `for(t = first; t < first + 20; t++)` -/
def SHA1_loop (f : uint32_t → uint32_t → uint32_t → uint32_t) (K : uint32_t) (first : Nat)
    (W : List uint32_t) (w : SHA1Words) : SHA1Words :=
  (List.range' first 20).foldl (fun w t => SHA1_round f K (W.getD t 0) w) w

/-- The word sequence and the four loops. -/
def SHA1_rounds (block : List uint8_t) (w : SHA1Words) : SHA1Words :=
  let W := SHA1_more_words 64 (SHA1_first_words block)
  let w := SHA1_loop (fun B C D => B &&& C ||| ~~~ B &&& D) 0x5a827999 0 W w
  let w := SHA1_loop (fun B C D => B ^^^ C ^^^ D) 0x6ed9eba1 20 W w
  let w := SHA1_loop (fun B C D => B &&& C ||| B &&& D ||| C &&& D) 0x8f1bbcdc 40 W w
  SHA1_loop (fun B C D => B ^^^ C ^^^ D) 0xca62c1d6 60 W w

def SHA1ProcessMessageBlock (context : SHA1Context) : SHA1Context :=
  let H := context.Message_Digest
  let w := SHA1_rounds context.Message_Block.toList (SHA1_words H)
  { context with
    Message_Digest :=
      #v[(H[0] + w.A) &&& 0xffffffff, (H[1] + w.B) &&& 0xffffffff, (H[2] + w.C) &&& 0xffffffff,
        (H[3] + w.D) &&& 0xffffffff, (H[4] + w.E) &&& 0xffffffff]
    Message_Block_Index := 0 }

/-- `context->Message_Block[context->Message_Block_Index++] = x` -/
def SHA1_put (context : SHA1Context) (x : uint8_t) : Option SHA1Context :=
  if h : context.Message_Block_Index < 64 then
    some { context with
      Message_Block := context.Message_Block.set context.Message_Block_Index x
      Message_Block_Index := context.Message_Block_Index + 1 }
  else none

/-! ### Input -/

/-- Add an octet to the length in bits, or note that there are too many. -/
def SHA1_count (context : SHA1Context) : SHA1Context :=
  let context := { context with Length_Low := (context.Length_Low + 8) &&& 0xffffffff }
  if context.Length_Low = 0 then
    let context := { context with Length_High := (context.Length_High + 1) &&& 0xffffffff }
    -- Message is too long
    if context.Length_High = 0 then { context with Corrupted := true } else context
  else context

/-- The loop of `SHA1Input`. -/
def SHA1Input_loop (context : SHA1Context) : List uint8_t → Option SHA1Context
  | [] => some context
  | x :: message_array =>
    if context.Corrupted then some context
    else do
      let context := SHA1_count (← SHA1_put context x)
      SHA1Input_loop
        (if context.Message_Block_Index = 64 then SHA1ProcessMessageBlock context else context)
        message_array

def SHA1Input (context : SHA1Context) (message_array : List uint8_t) : Option SHA1Context :=
  if message_array.length = 0 then some context
  else if context.Computed ∨ context.Corrupted then some { context with Corrupted := true }
  else SHA1Input_loop context message_array

/-! ### The result -/

/-- `while(context->Message_Block_Index < limit)`, zeros are put into the block. -/
def SHA1_put_zeros (limit : Nat) (context : SHA1Context) : Option SHA1Context :=
  (List.replicate (limit - context.Message_Block_Index) 0).foldlM SHA1_put context

/-- Store the message length as the last 8 octets. -/
def SHA1_put_length (context : SHA1Context) : SHA1Context :=
  let octet (x : uint32_t) (shift : Nat) : uint8_t := (x >>> shift &&& 0xff).setWidth 8
  let High := context.Length_High
  let Low := context.Length_Low
  { context with
    Message_Block := ((((((((context.Message_Block.set 56 (octet High 24)).set 57
      (octet High 16)).set 58 (octet High 8)).set 59 (octet High 0)).set 60 (octet Low 24)).set 61
      (octet Low 16)).set 62 (octet Low 8)).set 63 (octet Low 0)) }

def SHA1PadMessage (context : SHA1Context) : Option SHA1Context := do
  let context ←
    if context.Message_Block_Index > 55 then do
      -- the block is too small for the length, which goes into a second one
      let context ← SHA1_put_zeros 64 (← SHA1_put context 0x80)
      SHA1_put_zeros 56 (SHA1ProcessMessageBlock context)
    else do
      SHA1_put_zeros 56 (← SHA1_put context 0x80)
  pure (SHA1ProcessMessageBlock (SHA1_put_length context))

/-- `SHA1Result`, with what it returns. -/
def SHA1Result (context : SHA1Context) : Option (SHA1Context × Bool) :=
  if context.Corrupted then some (context, false)
  else if !context.Computed then do
    let context ← SHA1PadMessage context
    pure ({ context with Computed := true }, true)
  else some (context, true)

/-- The digest of `abc`, from the standard. -/
example : ((SHA1Input (SHA1Reset ⟨Vector.replicate 5 0, 0, 0, Vector.replicate 64 0, 0, false,
    false⟩) [0x61, 0x62, 0x63]).bind SHA1Result).map (fun result =>
      (result.1.Message_Digest, result.2)) =
    some (#v[0xa9993e36, 0x4706816a, 0xba3e2571, 0x7850c26c, 0x9cd0d89d], true) := by
  decide +kernel

end SimpleRouter
