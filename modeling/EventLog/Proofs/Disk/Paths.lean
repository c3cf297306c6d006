import EventLog.Disk.Path
import EventLog.Proofs.Text.Spelling

/-! Paths by their names. A slash, and no other character, parts the names of a path, so a path that
is put together has the names of its parts. -/
namespace EventLog

/-- No other character has the byte of a slash. -/
theorem slash_mem_utf8EncodeChar {c : Char} (h : Path.slash ∈ String.utf8EncodeChar c) :
    c = '/' := by
  have hn := Text.toNat_of_mem_utf8EncodeChar (by decide) h
  exact Char.ext (UInt32.toNat_inj.mp hn)

theorem slash_mem_encode {cs : List Char} (h : Path.slash ∈ Text.encode cs) : '/' ∈ cs := by
  obtain ⟨c, hc, hs⟩ := List.mem_flatMap.mp h
  exact slash_mem_utf8EncodeChar hs ▸ hc

namespace Path

private theorem pieces_ne_nil (bytes : List UInt8) : pieces bytes ≠ [] := by
  cases bytes with
  | nil => simp [pieces]
  | cons b rest =>
    rw [pieces]
    split
    · simp
    · split <;> simp

/-- A slash parts the pieces before it from those after it. -/
theorem pieces_append_slash (front back : List UInt8) :
    pieces (front ++ slash :: back) = pieces front ++ pieces back := by
  induction front with
  | nil => simp [pieces]
  | cons b rest ih =>
    by_cases hb : b = slash
    · simp [pieces, hb, ih]
    · rw [List.cons_append, pieces, if_neg hb, ih, pieces, if_neg hb]
      cases hp : pieces rest with
      | nil => exact absurd hp (pieces_ne_nil rest)
      | cons n more => rfl

private theorem pieces_of_no_slash {name : List UInt8} (h : slash ∉ name) :
    pieces name = [name] := by
  induction name with
  | nil => rfl
  | cons b rest ih =>
    simp only [List.mem_cons, not_or] at h
    rw [pieces, if_neg (Ne.symm h.1), ih h.2]

private theorem names_append_slash (front back : List UInt8) :
    names ⟨front ++ slash :: back⟩ = names ⟨front⟩ ++ names ⟨back⟩ := by
  simp only [names, pieces_append_slash, List.filter_append]

theorem names_replicate_slash (n : Nat) : names ⟨List.replicate n slash⟩ = [] := by
  induction n with
  | zero => rfl
  | succ n ih => exact (names_append_slash [] _).trans ih

/-- What continues a path adds its names. -/
theorem names_step_append (start bytes : List UInt8) :
    names ⟨step start bytes⟩ = names ⟨start⟩ ++ names ⟨bytes⟩ := by
  have hnil : names ⟨[]⟩ = [] := rfl
  unfold step
  split
  · next hl =>
    rw [List.getLast?_eq_none_iff] at hl
    rw [hl, hnil, List.nil_append]
  · next b hl =>
    split
    · next hb =>
      obtain ⟨front, rfl⟩ := List.getLast?_eq_some_iff.mp hl
      rw [hb, List.append_assoc, List.singleton_append, names_append_slash, names_append_slash,
        hnil, List.append_nil]
    · exact names_append_slash start bytes

private theorem names_of_no_slash {name : List UInt8} (h : slash ∉ name) (hne : name ≠ []) :
    names ⟨name⟩ = [name] := by
  simp [names, pieces_of_no_slash h, hne]

private theorem names_step {start name : List UInt8} (h : slash ∉ name) (hne : name ≠ []) :
    names ⟨step start name⟩ = names ⟨start⟩ ++ [name] := by
  rw [names_step_append, names_of_no_slash h hne]

/-- A path that is continued by one that is not absolute has the names of both. -/
theorem names_join_of_relative (p : Path) {q : Path} (h : ¬q.isAbsolute = true) :
    (p.join q).names = p.names ++ q.names := by
  rw [join, if_neg h]
  exact names_step_append p.bytes q.bytes

/-- A name that continues a path is its last one. -/
theorem names_join (p : Path) {name : List UInt8} (h : slash ∉ name) (hne : name ≠ []) :
    (p.join ⟨name⟩).names = p.names ++ [name] := by
  have hrel : ¬ (⟨name⟩ : Path).isAbsolute = true := by
    intro ha
    exact h (List.mem_of_mem_head? (by simpa [isAbsolute] using ha))
  rw [names_join_of_relative p hrel, names_of_no_slash h hne]

private theorem no_slash_or_last (bytes : List UInt8) :
    slash ∉ bytes ∨ ∃ front back, bytes = front ++ slash :: back ∧ slash ∉ back := by
  induction bytes with
  | nil => exact .inl List.not_mem_nil
  | cons b rest ih =>
    rcases ih with hrest | ⟨front, back, rfl, hback⟩
    · by_cases hb : b = slash
      · exact .inr ⟨[], rest, by rw [hb]; rfl, hrest⟩
      · exact .inl (by simp [hrest, Ne.symm hb])
    · exact .inr ⟨b :: front, back, rfl, hback⟩

def lastPiece (bytes : List UInt8) : List UInt8 := (pieces bytes).getLast (pieces_ne_nil bytes)

private theorem lastPiece_append_slash (front back : List UInt8) :
    lastPiece (front ++ slash :: back) = lastPiece back := by
  simp only [lastPiece, pieces_append_slash]
  exact List.getLast_append_of_ne_nil _ (pieces_ne_nil back)

/-- What has no slash goes on with the last piece. -/
theorem pieces_append {name : List UInt8} (h : slash ∉ name) (bytes : List UInt8) :
    pieces (bytes ++ name) = (pieces bytes).dropLast ++ [lastPiece bytes ++ name] := by
  have hwhole {bytes : List UInt8} (hbytes : slash ∉ bytes) : lastPiece bytes = bytes := by
    simp [lastPiece, pieces_of_no_slash hbytes]
  rcases no_slash_or_last bytes with hbytes | ⟨front, back, rfl, hback⟩
  · have hpieces : pieces (bytes ++ name) = [bytes ++ name] :=
      pieces_of_no_slash (by simp [hbytes, h])
    simp [hpieces, hwhole hbytes, pieces_of_no_slash hbytes]
  · have hpieces : pieces (back ++ name) = [back ++ name] :=
      pieces_of_no_slash (by simp [hback, h])
    rw [List.append_assoc, List.cons_append, pieces_append_slash, pieces_append_slash, hpieces,
      pieces_of_no_slash hback, List.dropLast_concat, lastPiece_append_slash, hwhole hback]

/-- What has no slash ends up in the last name, behind the last piece of what it is put to. -/
theorem names_append {name : List UInt8} (h : slash ∉ name) (hne : name ≠ [])
    (bytes : List UInt8) : names ⟨bytes ++ name⟩ =
      (pieces bytes).dropLast.filter (· ≠ []) ++ [lastPiece bytes ++ name] := by
  simp [names, pieces_append h, hne]

theorem lastPiece_step (start name : List UInt8) :
    lastPiece (step start name) = lastPiece name := by
  unfold step
  split
  · rfl
  · next b hl =>
    split
    · next hb =>
      obtain ⟨front, rfl⟩ := List.getLast?_eq_some_iff.mp hl
      rw [hb, List.append_assoc]
      exact lastPiece_append_slash front name
    · exact lastPiece_append_slash start name

theorem step_append (start : List UInt8) {front : List UInt8} (back : List UInt8) :
    step start (front ++ back) = step start front ++ back := by
  unfold step
  split
  · rfl
  · split <;> simp

theorem endsInSlash_join (p q : Path) (h : q.bytes ≠ []) :
    (p.join q).endsInSlash = q.endsInSlash := by
  unfold join
  split
  · rfl
  · have hlast (front : List UInt8) : (front ++ q.bytes).getLast? = q.bytes.getLast? := by
      rw [List.getLast?_append, Option.or_of_isSome (by simpa using h)]
    simp only [endsInSlash, step]
    split
    · rfl
    · split
      · rw [hlast]
      · rw [List.append_cons, hlast]

def IsName (name : Name) : Prop := slash ∉ name ∧ name ≠ []

private theorem slash_notMem_pieces {bytes name : List UInt8} (h : name ∈ pieces bytes) :
    slash ∉ name := by
  induction bytes generalizing name with
  | nil =>
    obtain rfl := List.mem_singleton.mp h
    exact List.not_mem_nil
  | cons b rest ih =>
    rw [pieces] at h
    split at h
    · rcases List.mem_cons.mp h with rfl | hrest
      · exact List.not_mem_nil
      · exact ih hrest
    · next hb =>
      split at h
      · obtain rfl := List.mem_singleton.mp h
        simpa using Ne.symm hb
      · next n more heq =>
        rcases List.mem_cons.mp h with rfl | hmore
        · simpa [Ne.symm hb] using ih (heq ▸ List.mem_cons_self)
        · exact ih (heq ▸ List.mem_cons_of_mem _ hmore)

theorem isName_of_mem_names {p : Path} {name : Name} (h : name ∈ p.names) : IsName name := by
  obtain ⟨hpiece, hne⟩ := List.mem_filter.mp h
  exact ⟨slash_notMem_pieces hpiece, by simpa using hne⟩

private theorem names_flatMap {names' : List Name} (h : ∀ name ∈ names', IsName name)
    (front : List UInt8) :
    names ⟨front ++ names'.flatMap (slash :: ·)⟩ = names ⟨front⟩ ++ names' := by
  induction names' generalizing front with
  | nil => simp
  | cons name rest ih =>
    obtain ⟨hname, hne⟩ := h name List.mem_cons_self
    rw [List.flatMap_cons, ← List.append_assoc, ih fun n hn => h n (List.mem_cons_of_mem _ hn),
      names_append_slash, names_of_no_slash hname hne, List.append_assoc]
    rfl

/-- The path through some names has these names after those it starts with. -/
theorem names_through {names' : List Name} (h : ∀ name ∈ names', IsName name)
    (start : List UInt8) : (through start names').names = names ⟨start⟩ ++ names' := by
  cases names' with
  | nil => exact (List.append_nil _).symm
  | cons name rest =>
    obtain ⟨hname, hne⟩ := h name List.mem_cons_self
    rw [through, names_flatMap fun n hn => h n (List.mem_cons_of_mem _ hn),
      names_step hname hne, List.append_assoc]
    rfl

/-- Every byte of a path but its slashes is in one of its names. -/
theorem mem_bytes_iff {b : UInt8} (h : b ≠ slash) {p : Path} :
    b ∈ p.bytes ↔ ∃ name ∈ p.names, b ∈ name := by
  have hpieces (bytes : List UInt8) : b ∈ bytes ↔ ∃ piece ∈ pieces bytes, b ∈ piece := by
    induction bytes with
    | nil => simp [pieces]
    | cons first rest ih =>
      rw [pieces, List.mem_cons, ih]
      split
      · next hfirst => simp [hfirst, h]
      · split
        · next hempty => exact absurd hempty (pieces_ne_nil rest)
        · next name more heq => simp [heq, or_assoc]
  rw [hpieces, names]
  simp only [List.mem_filter]
  refine ⟨fun ⟨name, hname, hb⟩ => ⟨name, ⟨hname, ?_⟩, hb⟩,
    fun ⟨name, hname, hb⟩ => ⟨name, hname.1, hb⟩⟩
  simpa using List.ne_nil_of_mem hb

theorem bytes_ne_nil {p : Path} (h : p.isAbsolute = true) : p.bytes ≠ [] := by
  intro hempty
  simp [isAbsolute, hempty] at h

private theorem isAbsolute_step {start : List UInt8} (h : start.head? = some slash)
    (name : List UInt8) : (step start name).head? = some slash := by
  obtain ⟨rest, rfl⟩ := List.head?_eq_some_iff.mp h
  unfold step
  split
  · next hl => cases List.getLast?_eq_none_iff.mp hl
  · split <;> rfl

theorem isAbsolute_through {start : List UInt8} (h : start.head? = some slash)
    (names' : List Name) : (through start names').isAbsolute = true := by
  cases names' with
  | nil => simp [through, isAbsolute, h]
  | cons name rest =>
    have hstep := isAbsolute_step h name
    rw [List.head?_eq_some_iff] at hstep
    obtain ⟨more, hmore⟩ := hstep
    simp [through, isAbsolute, hmore]

/-- The absolute form of a path leads through its names from one slash or two, or from the working
directory. -/
theorem absoluteStart_eq_ok {here : Except Fault Location} {p : Path} {start : List UInt8}
    (h : p.absoluteStart here = .ok start) :
    (p.isAbsolute = true ∧ (start = [slash] ∨ start = [slash, slash])) ∨
      (¬p.isAbsolute = true ∧ ∃ loc, here = .ok loc ∧ start = (ofLocation loc).bytes) := by
  unfold absoluteStart at h
  split at h
  · next habs =>
    cases h
    refine .inl ⟨habs, ?_⟩
    split
    · exact .inr rfl
    · exact .inl rfl
  · next hrel =>
    cases here with
    | error fault => cases h
    | ok loc =>
      cases h
      exact .inr ⟨hrel, loc, rfl, rfl⟩

theorem absolute_eq_ok {here : Except Fault Location} {p dir : Path}
    (h : p.absolute here = .ok dir) :
    p.bytes ≠ [] ∧ ∃ start, p.absoluteStart here = .ok start ∧
      dir = if p.endsInSlash then ⟨step (through start (p.names.filter (· ≠ self))).bytes []⟩
        else through start (p.names.filter (· ≠ self)) := by
  unfold absolute at h
  split at h
  · cases h
  · next hbytes =>
    split at h
    · cases h
    · next start hstart =>
      cases h
      exact ⟨hbytes, start, hstart, rfl⟩

/-- A path that is made absolute in spite of all is made so where the working directory is there. -/
theorem absolute_of_absolute_ok {here : Except Fault Location} {loc : Location} {p dir : Path}
    (hhere : ∀ other, here = .ok other → other = loc) (h : p.absolute here = .ok dir) :
    p.absolute (.ok loc) = .ok dir := by
  obtain ⟨hbytes, start, hstart, rfl⟩ := absolute_eq_ok h
  have hstart' : p.absoluteStart (.ok loc) = .ok start := by
    obtain ⟨habs, -⟩ | ⟨-, other, hother, -⟩ := absoluteStart_eq_ok hstart
    · rw [absoluteStart, if_pos habs] at hstart ⊢
      exact hstart
    · obtain rfl := hhere other hother
      rw [← hother]
      exact hstart
  simp only [absolute, if_neg hbytes, hstart']

theorem isAbsolute_of_absolute {here : Except Fault Location} {p dir : Path}
    (h : p.absolute here = .ok dir) : dir.isAbsolute = true := by
  obtain ⟨-, start, hstart, rfl⟩ := absolute_eq_ok h
  have hhead : start.head? = some slash := by
    obtain ⟨-, rfl | rfl⟩ | ⟨-, loc, -, rfl⟩ := absoluteStart_eq_ok hstart
    · rfl
    · rfl
    · have hlocation : (ofLocation loc).isAbsolute = true := isAbsolute_through rfl loc
      simpa [isAbsolute] using hlocation
  have hthrough := isAbsolute_through hhead (p.names.filter (· ≠ self))
  split
  · have hstep := isAbsolute_step (by simpa [isAbsolute] using hthrough) []
    simpa [isAbsolute] using hstep
  · exact hthrough

/-- The absolute form of a path ends with its names, without those that stay where they are. -/
theorem names_of_absolute {here : Except Fault Location} {p dir : Path}
    (h : p.absolute here = .ok dir) : p.names.filter (· ≠ self) <:+ dir.names := by
  have hnamed : ∀ name ∈ p.names.filter (· ≠ self), IsName name := fun name hname =>
    isName_of_mem_names (List.mem_filter.mp hname).1
  obtain ⟨-, start, -, rfl⟩ := absolute_eq_ok h
  split
  · rw [names_step_append, names_through hnamed]
    exact ⟨_, (List.append_nil _).symm⟩
  · rw [names_through hnamed]
    exact List.suffix_append _ _

end Path

end EventLog
