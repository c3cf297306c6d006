import EventLog.Proofs.Disk.Paths

/-! Paths in absolute form: one slash or two, then names of which none is `.`, then perhaps a slash.
Making a path absolute leads to one of these, and leaves those that are already as they are. -/
namespace EventLog.Path

def slashed (p : Path) : Path := ⟨step p.bytes []⟩

/-- The start of an absolute form. -/
inductive IsRoot : List UInt8 → Prop
  | one : IsRoot [slash]
  | two : IsRoot [slash, slash]

inductive InAbsoluteForm : Path → Prop
  | plain {start : List UInt8} {names' : List Name} (root : IsRoot start)
      (named : ∀ name ∈ names', IsName name ∧ name ≠ self) : InAbsoluteForm (through start names')
  | slashed {start : List UInt8} {names' : List Name} (root : IsRoot start)
      (named : ∀ name ∈ names', IsName name ∧ name ≠ self) :
      InAbsoluteForm (through start names').slashed

variable {start tail : List UInt8} {names' : List Name} {here : Location}
  {p dir : Path}

private theorem slashed_of_endsInSlash (h : p.endsInSlash = true) : p.slashed = p := by
  have hlast : p.bytes.getLast? = some slash := by simpa [endsInSlash] using h
  simp [slashed, step, hlast]

private theorem bytes_slashed (hne : p.bytes ≠ []) (h : ¬p.endsInSlash = true) :
    p.slashed.bytes = p.bytes ++ [slash] := by
  have hlast := List.getLast?_eq_some_getLast hne
  have hslash : p.bytes.getLast hne ≠ slash := by
    intro heq
    exact h (by simp [endsInSlash, hlast, heq])
  simp [slashed, step, hlast, hslash]

private theorem endsInSlash_slashed (hne : p.bytes ≠ []) : p.slashed.endsInSlash = true := by
  by_cases h : p.endsInSlash = true
  · rw [slashed_of_endsInSlash h, h]
  · simp [endsInSlash, bytes_slashed hne h]

private theorem names_slashed (p : Path) : p.slashed.names = p.names :=
  (names_step_append p.bytes []).trans (List.append_nil _)

namespace IsRoot

private theorem ne_nil (h : IsRoot start) : start ≠ [] := by
  cases h <;> exact List.cons_ne_nil _ _

private theorem names (h : IsRoot start) (named : ∀ name ∈ names', IsName name) :
    (through start names').names = names' := by
  rw [names_through named]
  cases h with
  | one => exact congrArg (· ++ names') (names_replicate_slash 1)
  | two => exact congrArg (· ++ names') (names_replicate_slash 2)

/-- No third slash follows a start. -/
theorem bytes (h : IsRoot start) (named : ∀ name ∈ names', IsName name) :
    ∃ tail, (through start names').bytes = start ++ tail ∧ tail.head? ≠ some slash := by
  cases names' with
  | nil => exact ⟨[], (List.append_nil _).symm, by simp⟩
  | cons name rest =>
    obtain ⟨hslash, hne⟩ := named name List.mem_cons_self
    obtain ⟨b, more, rfl⟩ := List.exists_cons_of_ne_nil hne
    have hstep : step start (b :: more) = start ++ b :: more := by cases h <;> rfl
    refine ⟨b :: more ++ rest.flatMap (slash :: ·), ?_, ?_⟩
    · rw [through, hstep, List.append_assoc]
    · simpa using Ne.symm (List.ne_of_not_mem_cons hslash)

private theorem bytes_slashed (h : IsRoot start) (named : ∀ name ∈ names', IsName name) :
    ∃ tail, (through start names').slashed.bytes = start ++ tail ∧ tail.head? ≠ some slash := by
  obtain ⟨tail, hbytes, htail⟩ := h.bytes named
  by_cases hend : (through start names').endsInSlash = true
  · exact ⟨tail, by rw [slashed_of_endsInSlash hend, hbytes], htail⟩
  · have hne : (through start names').bytes ≠ [] := by
      rw [hbytes]
      exact List.append_ne_nil_of_left_ne_nil h.ne_nil tail
    refine ⟨tail ++ [slash], by rw [Path.bytes_slashed hne hend, hbytes, List.append_assoc], ?_⟩
    cases tail with
    | nil =>
      -- A start alone would end in a slash.
      refine absurd ?_ hend
      rw [endsInSlash, hbytes]
      cases h <;> decide
    | cons b tail => exact htail

/-- The start of an absolute form is found again. -/
theorem absolute_eq (h : IsRoot start) (hbytes : p.bytes = start ++ tail)
    (htail : tail.head? ≠ some slash) (hnames : p.names = names')
    (hself : ∀ name ∈ names', name ≠ self) (here : Except Fault Location) :
    p.absolute here = .ok (if p.endsInSlash then (through start names').slashed
      else through start names') := by
  have hne : p.bytes ≠ [] := by
    rw [hbytes]
    exact List.append_ne_nil_of_left_ne_nil h.ne_nil tail
  have habs : p.isAbsolute = true := by
    rw [isAbsolute, hbytes]
    cases h <;> rfl
  have hfilter : p.names.filter (· ≠ self) = names' := by
    rw [hnames, List.filter_eq_self]
    exact fun name hname => by simpa using hself name hname
  have hstart : p.absoluteStart here = .ok start := by
    rw [absoluteStart, if_pos habs, hbytes]
    cases h with
    | one => cases tail <;> simp_all
    | two => cases tail <;> simp_all
  unfold absolute
  rw [if_neg hne, hstart]
  simp only [hfilter]
  rfl

end IsRoot

/-- A path in absolute form stays as it is. -/
theorem InAbsoluteForm.absolute_eq (h : InAbsoluteForm p) (here : Except Fault Location) :
    p.absolute here = .ok p := by
  cases h with
  | @plain start names' root named =>
    have hnamed : ∀ name ∈ names', IsName name := fun name hname => (named name hname).1
    obtain ⟨tail, hbytes, htail⟩ := root.bytes hnamed
    rw [root.absolute_eq hbytes htail (root.names hnamed) fun name hname => (named name hname).2]
    split
    · next hend => rw [slashed_of_endsInSlash hend]
    · rfl
  | @slashed start names' root named =>
    have hnamed : ∀ name ∈ names', IsName name := fun name hname => (named name hname).1
    obtain ⟨tail, hbytes, htail⟩ := root.bytes_slashed hnamed
    have hne : (through start names').bytes ≠ [] := by
      obtain ⟨_, hplain, -⟩ := root.bytes hnamed
      rw [hplain]
      exact List.append_ne_nil_of_left_ne_nil root.ne_nil _
    rw [root.absolute_eq hbytes htail ((names_slashed _).trans (root.names hnamed))
      fun name hname => (named name hname).2, if_pos (endsInSlash_slashed hne)]

private theorem bytes_through_concat (start : List UInt8) (front : List Name) (name : Name) :
    ∃ before, (through start (front ++ [name])).bytes = before ++ name := by
  cases front with
  | nil =>
    have hstep : ∃ before, step start name = before ++ name := by
      unfold step
      split
      · exact ⟨[], rfl⟩
      · split
        · exact ⟨start, rfl⟩
        · exact ⟨start ++ [slash], by rw [List.append_assoc]; rfl⟩
    simpa [through] using hstep
  | cons first rest =>
    refine ⟨step start first ++ rest.flatMap (slash :: ·) ++ [slash], ?_⟩
    simp [through]

/-- A path that leads on from a location leads through all the names in a row. -/
theorem through_ofLocation (hhere : ∀ name ∈ here, IsName name) (more : List Name) :
    through (ofLocation here).bytes more = through [slash] (here ++ more) := by
  cases more with
  | nil => rw [List.append_nil]; rfl
  | cons next more =>
    rcases List.eq_nil_or_concat here with rfl | ⟨front, name, rfl⟩
    · rfl
    · rw [List.concat_eq_append] at hhere ⊢
      obtain ⟨hslash, hne⟩ := hhere name (by simp)
      obtain ⟨before, hbytes⟩ := bytes_through_concat [slash] front name
      have hlast : (ofLocation (front ++ [name])).bytes.getLast? = some (name.getLast hne) := by
        rw [ofLocation, hbytes, List.getLast?_append, List.getLast?_eq_some_getLast hne]
        rfl
      have hstep : step (ofLocation (front ++ [name])).bytes next =
          (ofLocation (front ++ [name])).bytes ++ slash :: next := by
        have hother : name.getLast hne ≠ slash :=
          fun heq => hslash (heq ▸ List.getLast_mem hne)
        rw [step, hlast]
        exact if_neg hother
      rw [through, hstep]
      cases front <;> simp [ofLocation, through]

/-- What a path is made into is in absolute form, if the working directory is told by names. -/
theorem inAbsoluteForm_of_absolute (hhere : ∀ name ∈ here, IsName name ∧ name ≠ self)
    (h : p.absolute (.ok here) = .ok dir) : dir.InAbsoluteForm := by
  have hnamed : ∀ name ∈ p.names.filter (· ≠ self), IsName name ∧ name ≠ self := by
    intro name hname
    obtain ⟨hname, hself⟩ := List.mem_filter.mp hname
    exact ⟨isName_of_mem_names hname, by simpa using hself⟩
  obtain ⟨-, start, hstart, rfl⟩ := absolute_eq_ok h
  obtain ⟨root, names', hroot, named, hthrough⟩ : ∃ root names', IsRoot root ∧
      (∀ name ∈ names', IsName name ∧ name ≠ self) ∧
      through start (p.names.filter (· ≠ self)) = through root names' := by
    obtain ⟨-, rfl | rfl⟩ | ⟨-, loc, hloc, rfl⟩ := absoluteStart_eq_ok hstart
    · exact ⟨_, _, .one, hnamed, rfl⟩
    · exact ⟨_, _, .two, hnamed, rfl⟩
    · obtain rfl := Except.ok.inj hloc
      refine ⟨_, _, .one, fun name hname => ?_, through_ofLocation (fun n hn => (hhere n hn).1) _⟩
      rcases List.mem_append.mp hname with hname | hname
      · exact hhere name hname
      · exact hnamed name hname
  rw [hthrough]
  split
  · exact .slashed hroot named
  · exact .plain hroot named

/-- Making a path absolute once more changes nothing, wherever the working directory is by then. -/
theorem absolute_of_absolute (hhere : ∀ name ∈ here, IsName name ∧ name ≠ self)
    (h : p.absolute (.ok here) = .ok dir) (other : Except Fault Location) :
    dir.absolute other = .ok dir :=
  (inAbsoluteForm_of_absolute hhere h).absolute_eq other

end EventLog.Path
