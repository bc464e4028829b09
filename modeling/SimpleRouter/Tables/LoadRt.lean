import SimpleRouter.Model.LoadRt

/-! # Routes from a file

    A line with four fields fills all four buffers, so it makes an entry of its
    own. A shorter line leaves some buffers as they are, and what is in these
    makes an entry as well, whenever it converts: the fields of earlier lines,
    or what happens to be on the stack.

    * `rounds_ok_iff`: how far the loop gets.
    * `rounds_complete`: lines with four fields make their own entries.
    * `lines_alone_iff`: when every line is read on its own.
-/

namespace SimpleRouter

variable {uninit : RtFields} {sr : SrInstance} {file : List uint8_t}

/-! ### Lines -/

/-- The lines of a file, each with its newline. -/
def file_lines : List uint8_t → List (List uint8_t)
  | [] => []
  | c :: file =>
    if c = newline then [c] :: file_lines file
    else
      match file_lines file with
      | [] => [[c]]
      | line :: rest => (c :: line) :: rest

theorem file_lines_cons (c : uint8_t) (file : List uint8_t) :
    ∃ first rest, file_lines (c :: file) = (c :: first) :: rest := by
  rw [file_lines]
  by_cases hc : c = newline
  · rw [if_pos hc]
    exact ⟨[], _, rfl⟩
  · rw [if_neg hc]
    cases file_lines file with
    | nil => exact ⟨[], [], rfl⟩
    | cons line rest => exact ⟨line, rest, rfl⟩

/-- Text without a newline belongs to the line that goes on behind it. -/
theorem file_lines_append {line : List uint8_t} (h : newline ∉ line) {first : List uint8_t}
    {rest : List (List uint8_t)} (hfile : file_lines file = first :: rest) :
    file_lines (line ++ file) = (line ++ first) :: rest := by
  induction line with
  | nil => exact hfile
  | cons c line ih =>
    rw [List.mem_cons, not_or] at h
    rw [List.cons_append, file_lines, if_neg (Ne.symm h.1), ih h.2]
    rfl

/-- Text without a newline is one line. -/
theorem file_lines_single {line : List uint8_t} (h : newline ∉ line) (hne : line ≠ []) :
    file_lines line = [line] := by
  induction line with
  | nil => exact absurd rfl hne
  | cons c line ih =>
    rw [List.mem_cons, not_or] at h
    rw [file_lines, if_neg (Ne.symm h.1)]
    by_cases hline : line = []
    · rw [hline]
      rfl
    · rw [ih h.2 hline]

/-- Where the lines are short and the buffer is full, the file ends. -/
theorem file_ends_of_full {line : List uint8_t} (h : newline ∉ line)
    (hfull : line.length + 1 = BUFSIZ)
    (hshort : ∀ l ∈ file_lines (line ++ file), l.length < BUFSIZ) : file = [] := by
  cases file with
  | nil => rfl
  | cons c file =>
    obtain ⟨first, rest, hfile⟩ := file_lines_cons c file
    rw [file_lines_append h hfile] at hshort
    have hlt := hshort _ (.head _)
    simp only [List.length_append, List.length_cons] at hlt
    omega

/-- `fgets` reads these lines, if none is too long for it. -/
theorem fgets_lines_eq {line : List uint8_t} (h : newline ∉ line)
    (hshort : ∀ l ∈ file_lines (line ++ file), l.length < BUFSIZ) :
    fgets_lines line file = file_lines (line ++ file) := by
  induction file generalizing line with
  | nil =>
    rw [fgets_lines, List.append_nil]
    by_cases hline : line = []
    · rw [if_pos hline, hline]
      rfl
    · rw [if_neg hline, file_lines_single h hline]
  | cons c file ih =>
    rw [fgets_lines]
    by_cases hc : c = newline
    · have hlines : file_lines (line ++ c :: file) = (line ++ [c]) :: file_lines file := by
        apply file_lines_append h
        rw [file_lines, if_pos hc]
      rw [hlines] at hshort ⊢
      have hrest : fgets_lines [] file = file_lines ([] ++ file) :=
        ih (by simp) fun l hl => hshort l (.tail _ hl)
      rw [if_pos (.inl hc), hrest]
      rfl
    · have hnext : newline ∉ line ++ [c] := by simpa [h] using Ne.symm hc
      have hsplit : line ++ c :: file = line ++ [c] ++ file := List.append_cons line c file
      rw [hsplit] at hshort ⊢
      by_cases hlong : line.length + 2 = BUFSIZ
      · have hfull : (line ++ [c]).length + 1 = BUFSIZ := by simpa using hlong
        obtain rfl := file_ends_of_full hnext hfull hshort
        rw [if_pos (.inr hlong), List.append_nil, file_lines_single hnext (by simp)]
        rfl
      · rw [if_neg (not_or.mpr ⟨hc, hlong⟩)]
        exact ih hnext hshort

/-! ### Entries -/

/-- The entry for what is in the buffers, if the addresses convert. -/
def RtFields.entry (fields : RtFields) : Option SrRt := do
  let dest ← inet_aton fields.dest
  let gw ← inet_aton fields.gw
  let mask ← inet_aton fields.mask
  some ⟨dest, gw, mask, IfName.ofChars fields.iface⟩

/-- The line carries four fields. -/
def Complete (line : List uint8_t) : Prop := (line_fields line).length = 4

instance (line : List uint8_t) : Decidable (Complete line) := inferInstanceAs (Decidable (_ = _))

/-- The entry of a line that carries four fields. -/
def line_entry (line : List uint8_t) : Option SrRt :=
  match line_fields line with
  | [dest, gw, mask, iface] => RtFields.entry ⟨dest, gw, mask, iface⟩
  | _ => none

/-- What the buffers hold once `line` has been read. -/
def RtFields.after (fields : RtFields) (line : List uint8_t) : RtFields :=
  fields.assign (line_fields line)

/-- Reading these lines, the addresses in the buffers always convert. -/
def Converting (fields : RtFields) : List (List uint8_t) → Prop
  | [] => True
  | line :: rest => (fields.after line).entry ≠ none ∧ Converting (fields.after line) rest

instance decConverting : (fields : RtFields) → (lines : List (List uint8_t)) →
    Decidable (Converting fields lines)
  | _, [] => .isTrue trivial
  | fields, line :: rest =>
    have := decConverting (fields.after line) rest
    inferInstanceAs (Decidable (_ ∧ _))

/-- Each field fits in its buffer. -/
def FieldsFit (line : List uint8_t) : Prop := ∀ field ∈ line_fields line, field.length < field_size

/-! ### One round -/

/-- The entries loaded so far. What was there before is cleared with the first one. -/
def RtLoad.loaded (st : RtLoad) : List SrRt :=
  if st.clear_routing_table then st.sr.routing_table else []

/-- A round adds the entry for what is in the buffers, or ends the loop. -/
theorem round_eq {st : RtLoad} {line : List uint8_t} (hfit : FieldsFit line) :
    sr_load_rt_round st line =
      match (st.fields.after line).entry with
      | none => .error (.failed st.sr)
      | some rt =>
        .ok ⟨{ st.sr with routing_table := st.loaded ++ [rt] }, st.fields.after line, true⟩ := by
  have hscan : st.fields.sscanf line = some (st.fields.after line) := by
    rw [RtFields.sscanf, if_pos (by simpa [FieldsFit] using hfit)]
    rfl
  rw [sr_load_rt_round, hscan]
  simp only [RtFields.entry]
  cases inet_aton (st.fields.after line).dest with
  | none => rfl
  | some dest =>
    cases inet_aton (st.fields.after line).gw with
    | none => rfl
    | some gw =>
      cases inet_aton (st.fields.after line).mask with
      | none => rfl
      | some mask =>
        show Except.ok _ = Except.ok _
        cases hclear : st.clear_routing_table with
        | false => simp [sr_add_rt_entry, RtLoad.loaded, hclear]
        | true => simp [sr_add_rt_entry, RtLoad.loaded, hclear]

/-- What a round that goes through has done. -/
structure Added (st : RtLoad) (line : List uint8_t) (st' : RtLoad) (rt : SrRt) : Prop where
  entry : (st.fields.after line).entry = some rt
  fields : st'.fields = st.fields.after line
  loaded : st'.loaded = st.loaded ++ [rt]
  table : st'.sr.routing_table = st'.loaded

theorem round_ok_iff {st : RtLoad} {line : List uint8_t} (hfit : FieldsFit line) :
    (∃ st', sr_load_rt_round st line = .ok st') ↔ (st.fields.after line).entry ≠ none := by
  rw [round_eq hfit]
  cases (st.fields.after line).entry with
  | none => simp
  | some rt => simp

theorem round_added {st st' : RtLoad} {line : List uint8_t} (hfit : FieldsFit line)
    (h : sr_load_rt_round st line = .ok st') : ∃ rt, Added st line st' rt := by
  rw [round_eq hfit] at h
  cases hentry : (st.fields.after line).entry with
  | none =>
    rw [hentry] at h
    simp at h
  | some rt =>
    rw [hentry] at h
    obtain rfl := Except.ok.inj h
    exact ⟨rt, hentry, rfl, rfl, rfl⟩

/-! ### All rounds -/

section Rounds

variable {st st' : RtLoad} {lines : List (List uint8_t)}

theorem rounds_cons_ok {line : List uint8_t} :
    sr_load_rt_rounds st (line :: lines) = .ok st' ↔
      ∃ st₁, sr_load_rt_round st line = .ok st₁ ∧ sr_load_rt_rounds st₁ lines = .ok st' := by
  rw [sr_load_rt_rounds]
  cases hround : sr_load_rt_round st line with
  | error stop =>
    constructor
    · intro h
      cases h
    · intro h
      obtain ⟨st₁, hround', -⟩ := h
      cases hround'
  | ok st₁ =>
    constructor
    · exact fun h => ⟨st₁, rfl, h⟩
    · intro h
      obtain ⟨st₂, hround', hrest⟩ := h
      obtain rfl := Except.ok.inj hround'
      exact hrest

/-- **The loop gets through** exactly when the addresses in the buffers convert every time. -/
theorem rounds_ok_iff (hfit : ∀ line ∈ lines, FieldsFit line) :
    (∃ st', sr_load_rt_rounds st lines = .ok st') ↔ Converting st.fields lines := by
  induction lines generalizing st with
  | nil => exact iff_of_true ⟨st, rfl⟩ trivial
  | cons line lines ih =>
    obtain ⟨hline, hlines⟩ := List.forall_mem_cons.mp hfit
    rw [Converting, ← round_ok_iff hline]
    constructor
    · intro h
      obtain ⟨st', hrounds⟩ := h
      obtain ⟨st₁, hround, hrest⟩ := rounds_cons_ok.mp hrounds
      obtain ⟨rt, hadded⟩ := round_added hline hround
      rw [← hadded.fields]
      exact ⟨⟨st₁, hround⟩, (ih hlines).mp ⟨st', hrest⟩⟩
    · intro h
      obtain ⟨⟨st₁, hround⟩, hconv⟩ := h
      obtain ⟨rt, hadded⟩ := round_added hline hround
      rw [← hadded.fields] at hconv
      obtain ⟨st', hrest⟩ := (ih hlines).mpr hconv
      exact ⟨st', rounds_cons_ok.mpr ⟨st₁, hround, hrest⟩⟩

/-- Every line has added one entry, whether it carries one or not. -/
theorem rounds_length (hfit : ∀ line ∈ lines, FieldsFit line)
    (h : sr_load_rt_rounds st lines = .ok st') :
    st'.loaded.length = st.loaded.length + lines.length := by
  induction lines generalizing st with
  | nil =>
    obtain rfl := Except.ok.inj h
    rfl
  | cons line lines ih =>
    obtain ⟨hline, hlines⟩ := List.forall_mem_cons.mp hfit
    obtain ⟨st₁, hround, hrest⟩ := rounds_cons_ok.mp h
    obtain ⟨rt, hadded⟩ := round_added hline hround
    rw [ih hlines hrest, hadded.loaded, List.length_append, List.length_cons, List.length_cons,
      List.length_nil]
    omega

/-- What was in the table before is gone after the first line. -/
theorem rounds_table (hfit : ∀ line ∈ lines, FieldsFit line) (hne : lines ≠ [])
    (h : sr_load_rt_rounds st lines = .ok st') : st'.sr.routing_table = st'.loaded := by
  induction lines generalizing st with
  | nil => exact absurd rfl hne
  | cons line lines ih =>
    obtain ⟨hline, hlines⟩ := List.forall_mem_cons.mp hfit
    obtain ⟨st₁, hround, hrest⟩ := rounds_cons_ok.mp h
    by_cases hlast : lines = []
    · rw [hlast] at hrest
      obtain rfl := Except.ok.inj hrest
      obtain ⟨rt, hadded⟩ := round_added hline hround
      exact hadded.table
    · exact ih hlines hlast hrest

/-- The entry of a line with four fields comes from the line alone. -/
theorem entry_after {line : List uint8_t} (h : Complete line) (fields : RtFields) :
    (fields.after line).entry = line_entry line := by
  unfold Complete at h
  rw [RtFields.after, line_entry]
  match line_fields line, h with
  | [dest, gw, mask, iface], _ => rfl

theorem line_entry_complete {line : List uint8_t} (h : (line_entry line).isSome) :
    Complete line := by
  rw [line_entry] at h
  unfold Complete
  split at h
  · next hfields => rw [hfields]; rfl
  · simp at h

/-- **Lines with four fields** add their own entries, in their order. -/
theorem rounds_complete (hfit : ∀ line ∈ lines, FieldsFit line)
    (hcomplete : ∀ line ∈ lines, Complete line) (h : sr_load_rt_rounds st lines = .ok st') :
    st'.loaded = st.loaded ++ lines.filterMap line_entry := by
  induction lines generalizing st with
  | nil =>
    obtain rfl := Except.ok.inj h
    simp
  | cons line lines ih =>
    obtain ⟨hline, hlines⟩ := List.forall_mem_cons.mp hfit
    obtain ⟨hfour, hfours⟩ := List.forall_mem_cons.mp hcomplete
    obtain ⟨st₁, hround, hrest⟩ := rounds_cons_ok.mp h
    obtain ⟨rt, hadded⟩ := round_added hline hround
    have hentry : line_entry line = some rt := (entry_after hfour st.fields).symm.trans hadded.entry
    rw [ih hlines hfours hrest, hadded.loaded, List.filterMap_cons_some hentry, List.append_assoc]
    rfl

/-- A load that fails has gone through the lines before the one it failed at. -/
theorem rounds_failed (hfit : ∀ line ∈ lines, FieldsFit line)
    (h : sr_load_rt_rounds st lines = .error (.failed sr)) :
    ∃ done rest st', lines = done ++ rest ∧ sr_load_rt_rounds st done = .ok st' ∧ st'.sr = sr := by
  induction lines generalizing st with
  | nil => cases h
  | cons line lines ih =>
    obtain ⟨hline, hlines⟩ := List.forall_mem_cons.mp hfit
    rw [sr_load_rt_rounds] at h
    cases hround : sr_load_rt_round st line with
    | error stop =>
      rw [hround] at h
      obtain rfl := Except.error.inj h
      refine ⟨[], line :: lines, st, rfl, rfl, ?_⟩
      rw [round_eq hline] at hround
      cases hentry : (st.fields.after line).entry with
      | none =>
        rw [hentry] at hround
        exact RtStop.failed.inj (Except.error.inj hround)
      | some rt =>
        rw [hentry] at hround
        cases hround
    | ok st₁ =>
      rw [hround] at h
      obtain ⟨done, rest, st', rfl, hdone, hsr⟩ := ih hlines h
      exact ⟨line :: done, rest, st', rfl, rounds_cons_ok.mpr ⟨st₁, hround, hdone⟩, hsr⟩

end Rounds

/-! ### A prefix of the lines -/

theorem Converting.left {fields : RtFields} {done rest : List (List uint8_t)}
    (h : Converting fields (done ++ rest)) : Converting fields done := by
  induction done generalizing fields with
  | nil => trivial
  | cons line done ih => exact ⟨h.1, ih h.2⟩

/-- Every line is read on its own, whatever the table was before. -/
structure LinesAlone (uninit : RtFields) (file : List uint8_t) : Prop where
  /-- At any time, the table has the entries of the lines so far that carry one. -/
  so_far : ∀ sr done rest st, file_lines file = done ++ rest → done ≠ [] →
    sr_load_rt_rounds ⟨sr, uninit, false⟩ done = .ok st →
    st.sr.routing_table = done.filterMap line_entry
  loaded : ∀ sr sr', sr_load_rt uninit sr (some file) = some (sr', 0) →
    sr'.routing_table = (file_lines file).filterMap line_entry
  failed : ∀ sr sr', sr_load_rt uninit sr (some file) = some (sr', -1) →
    sr'.routing_table = sr.routing_table ∨
      ∃ done rest, file_lines file = done ++ rest ∧ sr'.routing_table = done.filterMap line_entry

/-- Every line has four fields, of those that are reached and not failed at. -/
def ShortLinesFail (uninit : RtFields) (file : List uint8_t) : Prop :=
  ∀ done line rest, file_lines file = done ++ line :: rest → Converting uninit (done ++ [line]) →
    Complete line

/-! ### Loading -/

/-- What the load returns, by how the loop ended. -/
theorem sr_load_rt_eq (hshort : ∀ line ∈ file_lines file, line.length < BUFSIZ)
    (sr : SrInstance) :
    sr_load_rt uninit sr (some file) =
      match sr_load_rt_rounds ⟨sr, uninit, false⟩ (file_lines file) with
      | .ok st => some (st.sr, 0)
      | .error (.failed sr) => some (sr, -1)
      | .error .overrun => none := by
  have hlines : fgets_lines [] file = file_lines file := fgets_lines_eq (by simp) hshort
  rw [← hlines]
  exact rfl

/-- A load that returns 0 has gone through all lines, and one that returns -1 has failed at one. -/
theorem load_cases {sr sr' : SrInstance} {n : Int}
    (hshort : ∀ line ∈ file_lines file, line.length < BUFSIZ)
    (h : sr_load_rt uninit sr (some file) = some (sr', n)) :
    (n = 0 ∧ ∃ st,
      sr_load_rt_rounds ⟨sr, uninit, false⟩ (file_lines file) = .ok st ∧ st.sr = sr') ∨
    (n = -1 ∧ sr_load_rt_rounds ⟨sr, uninit, false⟩ (file_lines file) = .error (.failed sr')) := by
  rw [sr_load_rt_eq hshort] at h
  cases hrounds : sr_load_rt_rounds ⟨sr, uninit, false⟩ (file_lines file) with
  | ok st =>
    rw [hrounds] at h
    obtain ⟨hsr, hn⟩ := Prod.mk.inj (Option.some.inj h)
    exact .inl ⟨hn.symm, st, rfl, hsr⟩
  | error stop =>
    rw [hrounds] at h
    cases stop with
    | failed sr₁ =>
      obtain ⟨hsr, hn⟩ := Prod.mk.inj (Option.some.inj h)
      exact .inr ⟨hn.symm, by rw [hsr]⟩
    | overrun => cases h

theorem so_far_of_short (hfit : ∀ line ∈ file_lines file, FieldsFit line)
    (hfail : ShortLinesFail uninit file) (sr : SrInstance) {done rest : List (List uint8_t)}
    {st : RtLoad} (hlines : file_lines file = done ++ rest) (hdone : done ≠ [])
    (h : sr_load_rt_rounds ⟨sr, uninit, false⟩ done = .ok st) :
    st.sr.routing_table = done.filterMap line_entry := by
  have hfits : ∀ line ∈ done, FieldsFit line :=
    fun line hline => hfit line (hlines ▸ List.mem_append_left rest hline)
  have hconv : Converting uninit done := (rounds_ok_iff hfits).mp ⟨st, h⟩
  have hcomplete : ∀ line ∈ done, Complete line := by
    intro line hline
    obtain ⟨before, after, rfl⟩ := List.append_of_mem hline
    apply hfail before line (after ++ rest)
    · rw [hlines, List.append_assoc, List.cons_append]
    · rw [List.append_cons] at hconv
      exact hconv.left
  rw [rounds_table hfits hdone h, rounds_complete hfits hcomplete h]
  rfl

/-- **Lines are read on their own exactly** when no line with fewer than four fields gets
    past what the buffers hold. -/
theorem lines_alone_iff (hne : file ≠ [])
    (hshort : ∀ line ∈ file_lines file, line.length < BUFSIZ)
    (hfit : ∀ line ∈ file_lines file, FieldsFit line) :
    LinesAlone uninit file ↔ ShortLinesFail uninit file := by
  constructor
  · intro halone done line rest hlines hconv
    have hsplit : file_lines file = (done ++ [line]) ++ rest := by rw [hlines, List.append_cons]
    have hfits : ∀ l ∈ done ++ [line], FieldsFit l :=
      fun l hl => hfit l (hsplit ▸ List.mem_append_left rest hl)
    -- every line has added an entry, so each of them has one
    have hstart : Converting (RtLoad.fields ⟨⟨[], []⟩, uninit, false⟩) (done ++ [line]) := hconv
    obtain ⟨st, hst⟩ := (rounds_ok_iff hfits).mpr hstart
    have htable := halone.so_far ⟨[], []⟩ _ rest st hsplit (by simp) hst
    have hlength := rounds_length hfits hst
    rw [← rounds_table hfits (by simp) hst, htable] at hlength
    have hall := List.filterMap_length_eq_length.mp (hlength.trans (Nat.zero_add _))
    exact line_entry_complete (hall line (by simp))
  · intro hfail
    refine ⟨fun sr done rest st => so_far_of_short hfit hfail sr, ?_, ?_⟩
    · intro sr sr' h
      obtain ⟨-, st, hrounds, rfl⟩ | ⟨hn, -⟩ := load_cases hshort h
      swap
      · exact absurd hn (by decide)
      refine so_far_of_short hfit hfail sr (List.append_nil _).symm ?_ hrounds
      obtain ⟨c, file', rfl⟩ := List.exists_cons_of_ne_nil hne
      obtain ⟨first, rest, hcons⟩ := file_lines_cons c file'
      rw [hcons]
      simp
    · intro sr sr' h
      obtain ⟨hn, -⟩ | ⟨-, hfailed⟩ := load_cases hshort h
      · exact absurd hn (by decide)
      obtain ⟨done, rest, st, hlines, hrounds, rfl⟩ := rounds_failed hfit hfailed
      by_cases hdone : done = []
      · rw [hdone] at hrounds
        obtain rfl := Except.ok.inj hrounds
        exact .inl rfl
      · exact .inr ⟨done, rest, hlines, so_far_of_short hfit hfail sr hlines hdone hrounds⟩

namespace Sample

/-- `1.0.0.0 2.0.0.0 255.0.0.0 e` -/
def one_route : List uint8_t :=
  [0x31, 0x2e, 0x30, 0x2e, 0x30, 0x2e, 0x30, 0x20, 0x32, 0x2e, 0x30, 0x2e, 0x30, 0x2e, 0x30, 0x20,
    0x32, 0x35, 0x35, 0x2e, 0x30, 0x2e, 0x30, 0x2e, 0x30, 0x20, 0x65, newline]

/-- Buffers with nothing in them. -/
def no_fields : RtFields := ⟨[], [], [], []⟩

/-- An empty line behind it adds the route again. -/
theorem route_repeated :
    let file := one_route ++ [newline]
    let rt : SrRt :=
      ⟨inet_addr 1 0 0 0, inet_addr 2 0 0 0, inet_addr 255 0 0 0, IfName.ofChars [0x65]⟩
    file ≠ [] ∧ (∀ line ∈ file_lines file, line.length < BUFSIZ) ∧
      (∀ line ∈ file_lines file, FieldsFit line) ∧
      sr_load_rt no_fields ⟨[], []⟩ (some file) = some (⟨[], [rt, rt]⟩, 0) ∧
      (file_lines file).filterMap line_entry = [rt] ∧ ¬ LinesAlone no_fields file := by
  intro file rt
  have hload : sr_load_rt no_fields ⟨[], []⟩ (some file) = some (⟨[], [rt, rt]⟩, 0) := by
    decide +kernel
  have hentries : (file_lines file).filterMap line_entry = [rt] := by decide +kernel
  refine ⟨by decide +kernel, by decide +kernel, by unfold FieldsFit; decide +kernel, hload,
    hentries, fun halone => ?_⟩
  have htable := halone.loaded ⟨[], []⟩ _ hload
  rw [hentries] at htable
  cases htable

/-- `x`, which is no address. -/
def no_route : List uint8_t := [0x78, newline]

/-- A line with four fields, and a short one whose field does not convert: the load fails at it,
    with the entry of the first line. -/
theorem short_line_fails :
    (sr_load_rt no_fields ⟨[], []⟩ (some (one_route ++ no_route))).map (·.2) = some (-1) ∧
      LinesAlone no_fields (one_route ++ no_route) := by
  have hfile : file_lines (one_route ++ no_route) = [one_route, no_route] := by decide +kernel
  refine ⟨by decide +kernel, (lines_alone_iff (by decide +kernel) (by decide +kernel)
    (by unfold FieldsFit; decide +kernel)).mpr ?_⟩
  intro done line rest hlines hconv
  rw [hfile] at hlines
  rcases List.append_eq_cons_iff.mp hlines.symm with ⟨-, hfirst⟩ | ⟨done', rfl, hrest⟩
  · obtain ⟨rfl, -⟩ := List.cons.inj hfirst
    decide +kernel
  · -- the buffers do not convert any more once the second line was read
    obtain ⟨rfl, hlast⟩ := (List.singleton_eq_append_iff.mp hrest).resolve_right (by simp)
    obtain ⟨rfl, -⟩ := List.cons.inj hlast
    exact absurd hconv (by decide +kernel)

end Sample

end SimpleRouter
