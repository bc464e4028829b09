import SimpleRouter.Model.Tables

/-! # Loading the routing table (`sr_rt.c`)

    `sr_load_rt` reads a file line by line, takes four fields apart with
    `sscanf` and adds a route. The four buffers outlive the loop, and `sscanf`
    writes only those that the line has a field for.
-/

namespace SimpleRouter

open Framework Framework.Bytes

/-! ### The C library -/

abbrev BUFSIZ : Nat := 8192

def newline : uint8_t := 0x0a

def isspace (c : uint8_t) : Bool := c = 0x20 ∨ (0x09 ≤ c ∧ c ≤ 0x0d)

def isdigit (c : uint8_t) : Bool := 0x30 ≤ c ∧ c ≤ 0x39

/-- What `fgets(line, BUFSIZ, fp)` reads until the end of the file, `line` being what it has of
    the line that it is at. -/
def fgets_lines (line : List uint8_t) : List uint8_t → List (List uint8_t)
  | [] => if line = [] then [] else [line]
  | c :: file =>
    if c = newline ∨ line.length + 2 = BUFSIZ then (line ++ [c]) :: fgets_lines [] file
    else fgets_lines (line ++ [c]) file

/-- The first `n` fields that `%s` finds. -/
def scan_fields : Nat → List uint8_t → List (List uint8_t)
  | 0, _ => []
  | n + 1, s =>
    let s := s.dropWhile isspace
    if s = [] then []
    else s.takeWhile (!isspace ·) :: scan_fields n (s.dropWhile (!isspace ·))

/-- The value of a digit, or 16 for what is no digit in any base. -/
def digit (c : uint8_t) : Nat :=
  if isdigit c then c.toNat - 0x30
  else if 0x41 ≤ c ∧ c ≤ 0x46 then c.toNat - 0x41 + 10
  else if 0x61 ≤ c ∧ c ≤ 0x66 then c.toNat - 0x61 + 10
  else 16

/-- `val` and the digits that follow, with the rest of the string. -/
def strtoul_digits (base val : Nat) : List uint8_t → Nat × List uint8_t
  | [] => (val, [])
  | c :: cp =>
    if digit c < base then strtoul_digits base (val * base + digit c) cp else (val, c :: cp)

/-- `strtoul` for base 0, at a digit. -/
def strtoul (cp : List uint8_t) : Nat × List uint8_t :=
  match cp with
  | 0x30 :: x :: d :: cp =>
    if (x = 0x58 ∨ x = 0x78) ∧ digit d < 16 then strtoul_digits 16 0 (d :: cp)
    else strtoul_digits 8 0 (x :: d :: cp)
  | 0x30 :: cp => strtoul_digits 8 0 cp
  | cp => strtoul_digits 10 0 cp

/-- The parts of an address from some part on, with `dots` more dots allowed; `val` is what the
    parts before come to. The last part stands for all bytes that are left. -/
def inet_aton_parts : Nat → Nat → List uint8_t → Option Nat
  | dots, val, cp =>
    if !(cp.head?.any isdigit) then none
    else
      match dots, strtoul cp with
      | 0, (part, rest) =>
        if rest.head?.all isspace ∧ part < 256 then some (val * 256 + part) else none
      | dots + 1, (part, rest) =>
        if rest.head? = some 0x2e then
          if part < 256 then inet_aton_parts dots (val * 256 + part) rest.tail else none
        else if rest.head?.all isspace ∧ part < 256 ^ (dots + 2) then
          some (val * 256 ^ (dots + 2) + part)
        else none

/-- `inet_aton`; `none` is the return value 0. The address is in network byte order. -/
def inet_aton (cp : List uint8_t) : Option uint32_t :=
  (inet_aton_parts 3 0 cp).map fun n => ntohl (BitVec.ofNat 32 n)

/-! ### The buffers -/

/-- The strings in the four buffers. -/
structure RtFields where
  dest : List uint8_t
  gw : List uint8_t
  mask : List uint8_t
  iface : List uint8_t
  deriving DecidableEq

/-- The buffers after `sscanf` has found these fields. -/
def RtFields.assign (fields : RtFields) : List (List uint8_t) → RtFields
  | [] => fields
  | [dest] => { fields with dest := dest }
  | [dest, gw] => { fields with dest := dest, gw := gw }
  | [dest, gw, mask] => { fields with dest := dest, gw := gw, mask := mask }
  | dest :: gw :: mask :: iface :: _ => ⟨dest, gw, mask, iface⟩

/-- `sizeof(dest)`, as of the other buffers. -/
abbrev field_size : Nat := 32

/-- The fields of a line, which ends at its terminator. -/
def line_fields (line : List uint8_t) : List (List uint8_t) :=
  scan_fields 4 (line.takeWhile (· ≠ 0))

/-- `sscanf(line, "%s %s %s %s", dest, gw, mask, iface)`; `none` is an overrun of a buffer. -/
def RtFields.sscanf (fields : RtFields) (line : List uint8_t) : Option RtFields :=
  if (line_fields line).all fun field => field.length < field_size then
    some (fields.assign (line_fields line))
  else none

/-! ### The loop -/

def sr_add_rt_entry (sr : SrInstance) (dest gw mask : uint32_t) (if_name : List uint8_t) :
    SrInstance :=
  { sr with routing_table := sr.routing_table ++ [⟨dest, gw, mask, IfName.ofChars if_name⟩] }

/-- The router and the variables of `sr_load_rt` that outlive a round. -/
structure RtLoad where
  sr : SrInstance
  fields : RtFields
  clear_routing_table : Bool
  deriving DecidableEq

/-- The ways in which a round ends the loop. -/
inductive RtStop where
  /-- `return -1`. -/
  | failed (sr : SrInstance)
  | overrun
  deriving DecidableEq

/-- One round of the loop. -/
def sr_load_rt_round (st : RtLoad) (line : List uint8_t) : Except RtStop RtLoad :=
  match st.fields.sscanf line with
  | none => .error .overrun
  | some fields =>
    match inet_aton fields.dest with
    | none => .error (.failed st.sr)
    | some dest_addr =>
      match inet_aton fields.gw with
      | none => .error (.failed st.sr)
      | some gw_addr =>
        match inet_aton fields.mask with
        | none => .error (.failed st.sr)
        | some mask_addr =>
          let sr := if st.clear_routing_table then st.sr else { st.sr with routing_table := [] }
          .ok ⟨sr_add_rt_entry sr dest_addr gw_addr mask_addr fields.iface, fields, true⟩

def sr_load_rt_rounds (st : RtLoad) : List (List uint8_t) → Except RtStop RtLoad
  | [] => .ok st
  | line :: rest => do
    let st ← sr_load_rt_round st line
    sr_load_rt_rounds st rest

/-- `sr_load_rt`, for a file that is readable or not, and buffers with `uninit` in them; `none`
    is an overrun of a buffer. -/
def sr_load_rt (uninit : RtFields) (sr : SrInstance) (file : Option (List uint8_t)) :
    Option (SrInstance × Int) :=
  match file with
  | none => some (sr, -1)
  | some file =>
    match sr_load_rt_rounds ⟨sr, uninit, false⟩ (fgets_lines [] file) with
    | .ok st => some (st.sr, 0)
    | .error (.failed sr) => some (sr, -1)
    | .error .overrun => none

end SimpleRouter
