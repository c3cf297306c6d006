import EventLog.Proofs.Rolling.Contents
import Mathlib.Data.List.GetD

/-! The share of every file: the events that went to it. On a disk that takes bytes a file holds the
lines of its share after what it held before, and an event that is taken joins the last share. -/
namespace EventLog.Rolling

/-- From `d` and `w` on, the events that went to each file, to `d'` and `w'`. -/
structure Shared (d : Disk) (w : Rolling) (d' : Disk) (w' : Rolling)
    (shares : List (List Event)) : Prop where
  ready : Ready d' w'
  zone : w'.zone = w.zone
  length : shares.length = d'.files.length
  contents : ∀ k, contents d' w' k =
    contents d w k ++ Text.encode ((shares.getD k []).flatMap (·.lines w.zone))
  later : ∀ f, w'.current = some f → ∀ k, f.id < k → shares.getD k [] = []

private theorem flatten_of_getD_nil {α : Type} {l : List (List α)} (h : ∀ k, l.getD k [] = []) :
    l.flatten = [] := by
  rw [List.flatten_eq_nil_iff]
  intro share hshare
  obtain ⟨k, hk⟩ := List.mem_iff_getElem?.mp hshare
  have hnil := h k
  rwa [List.getD_eq_getElem?_getD, hk] at hnil

/-- What joins the last share that is not empty comes last. -/
theorem flatten_modify_snoc {α : Type} {l : List (List α)} {i : Nat} (hi : i < l.length)
    (h : ∀ k, i < k → l.getD k [] = []) (a : α) :
    (l.modify i (· ++ [a])).flatten = l.flatten ++ [a] := by
  induction l generalizing i with
  | nil => cases hi
  | cons share rest ih =>
    cases i with
    | zero =>
      have hrest : rest.flatten = [] := by
        apply flatten_of_getD_nil
        intro k
        exact h (k + 1) (Nat.succ_pos k)
      simp [hrest]
    | succ i =>
      have hrest := ih (Nat.lt_of_succ_lt_succ hi) fun k hk => h (k + 1) (Nat.succ_lt_succ hk)
      simp [hrest]

theorem map_modify_snoc {α β : Type} (g : α → β) (l : List (List α)) (i : Nat) (a : α) :
    (l.modify i (· ++ [a])).map (·.map g) = (l.map (·.map g)).modify i (· ++ [g a]) := by
  induction l generalizing i with
  | nil => cases i <;> rfl
  | cons share rest ih => cases i <;> simp [ih]

theorem mem_getD_modify {α : Type} {l : List (List α)} {i k : Nat} {a b : α}
    (h : b ∈ (l.modify i (· ++ [a])).getD k []) : b ∈ l.getD k [] ∨ k = i ∧ b = a := by
  rw [List.getD_eq_getElem?_getD, List.getElem?_modify] at h
  rw [List.getD_eq_getElem?_getD]
  cases hshare : l[k]? with
  | none => simp [hshare] at h
  | some share =>
    by_cases hk : i = k
    · have hmem : b ∈ share ++ [a] := by simpa [hshare, hk] using h
      exact (List.mem_append.mp hmem).imp id fun hb => ⟨hk.symm, List.mem_singleton.mp hb⟩
    · exact .inl (by simpa [hshare, hk] using h)

theorem mem_getD_snoc {α : Type} {l : List (List α)} {k : Nat} {a b : α}
    (h : b ∈ (l ++ [[a]]).getD k []) : b ∈ l.getD k [] ∨ k = l.length ∧ b = a := by
  rw [List.getD_eq_getElem?_getD] at h ⊢
  rcases Nat.lt_trichotomy k l.length with hk | hk | hk
  · rw [List.getElem?_append_left hk] at h
    exact .inl h
  · exact .inr ⟨hk, by simpa [hk] using h⟩
  · rw [List.getElem?_eq_none (by simp; omega)] at h
    cases h

variable {d d' after : Disk} {w w' : Rolling} {shares : List (List Event)}

theorem Shared.start (h : Ready d w) :
    Shared d w d w (List.replicate d.files.length []) := by
  have hnone (k : Nat) : (List.replicate d.files.length ([] : List Event)).getD k [] = [] := by
    rw [List.getD_eq_getElem?_getD, List.getElem?_getD_replicate_default_eq]
  refine ⟨h, rfl, List.length_replicate, fun k => ?_, fun f _ k _ => hnone k⟩
  rw [hnone]
  exact (List.append_nil _).symm

/-- No file after the open one has got anything, whatever else is known of the events. -/
theorem Shared.later_of_map {α : Type} {g : α → Event} {l : List (List α)}
    (h : Shared d w d' w' (l.map (·.map g))) {f : OpenFile} (hf : w'.current = some f) (k : Nat)
    (hk : f.id < k) : l.getD k [] = [] := by
  have hlater := h.later f hf k hk
  rw [List.getD_eq_getElem?_getD, List.getElem?_map] at hlater
  rw [List.getD_eq_getElem?_getD]
  cases hshare : l[k]? with
  | none => rfl
  | some share =>
    rw [hshare] at hlater
    exact List.map_eq_nil_iff.mp hlater

/-- Whatever happens to the entries of the disk, the files keep their shares. -/
theorem Shared.weather (h : Shared d w d' w' shares) (files : after.files = d'.files)
    (takes : after.refusesBytes = d'.refusesBytes) : Shared d w after w' shares := by
  refine ⟨h.ready.of_files files takes, h.zone, by rw [files, h.length], fun k => ?_, h.later⟩
  rw [← h.contents k]
  exact contents_of_files files w' k

/-- An operation that went well and added nothing leaves the shares. -/
theorem Shared.settled {r : Rolled} (h : Shared d w d' w' shares) (hs : Settled d' w' r)
    (zone : r.writer.zone = w'.zone)
    (current : ∀ f, r.writer.current = some f → ∃ g, w'.current = some g ∧ g.id = f.id) :
    Shared d w r.disk r.writer shares := by
  refine ⟨hs.ready, zone.trans h.zone, h.length.trans hs.length.symm,
    fun k => (hs.contents k).trans (h.contents k), fun f hf => ?_⟩
  obtain ⟨g, hg, hid⟩ := current f hf
  rw [← hid]
  exact h.later g hg

theorem Shared.flush (h : Shared d w d' w' shares) :
    Shared d w (w'.flush d').disk (w'.flush d').writer shares := by
  obtain ⟨hs, hw⟩ := flush_settled h.ready
  refine h.settled hs (by rw [hw]) fun f hf => ?_
  rw [hw] at hf
  obtain ⟨g, hg, rfl⟩ := Option.map_eq_some_iff.mp hf
  exact ⟨g, hg, rfl⟩

theorem Shared.close (h : Shared d w d' w' shares) :
    Shared d w (w'.close d').disk (w'.close d').writer shares := by
  obtain ⟨hs, hw⟩ := close_settled h.ready
  refine h.settled hs (by rw [hw]) fun f hf => ?_
  rw [hw] at hf
  cases hf

theorem Shared.redirect (h : Shared d w d' w' shares) (target : Target) :
    Shared d w (w'.redirect d' target).disk (w'.redirect d' target).writer shares := by
  obtain ⟨hs, hw⟩ := redirect_settled h.ready target
  refine h.settled hs (by rw [hw]) fun f hf => ?_
  rw [hw] at hf
  cases hf

/-- An event that goes to the open file joins the share of that. -/
theorem Shared.took {e : Event} {f : OpenFile} {waiting : Array UInt8}
    (h : Shared d w d' w' shares) (hf : w'.current = some f)
    (hlength : (w'.write d' e).disk.files.length = d'.files.length)
    (ht : Took d' w' e (w'.write d' e) { f with waiting }) :
    Shared d w (w'.write d' e).disk (w'.write d' e).writer (shares.modify f.id (· ++ [e])) := by
  have hid : f.id < shares.length := by
    rw [h.length]
    exact h.ready.isOpen f hf
  have hother {k : Nat} (hk : k ≠ f.id) :
      (shares.modify f.id (· ++ [e])).getD k [] = shares.getD k [] := by
    simp [List.getD_eq_getElem?_getD, Ne.symm hk]
  refine ⟨ht.ready, ht.zone.trans h.zone, ?_, fun k => ?_, fun g hg k hk => ?_⟩
  · rw [List.length_modify, h.length, hlength]
  · rw [ht.contents, h.contents, h.zone]
    by_cases hk : k = f.id
    · simp [hk, List.getD_eq_getElem?_getD, List.getElem?_eq_getElem hid, Text.encode_append]
    · rw [if_neg hk, hother hk, List.append_nil]
  · rw [ht.writer] at hg
    cases hg
    rw [hother (Nat.ne_of_gt hk)]
    exact h.later f hf k hk

/-- An event that gets a new file is the share of that. -/
theorem Shared.opened {e : Event} {f : OpenFile} {waiting : Array UInt8}
    (h : Shared d w d' w' shares) (hid : f.id = d'.files.length)
    (hlength : (w'.write d' e).disk.files.length = d'.files.length + 1)
    (ht : Took d' w' e (w'.write d' e) { f with waiting }) :
    Shared d w (w'.write d' e).disk (w'.write d' e).writer (shares ++ [[e]]) := by
  refine ⟨ht.ready, ht.zone.trans h.zone, ?_, fun k => ?_, fun g hg k hk => ?_⟩
  · rw [hlength, List.length_append, h.length]
    rfl
  · rw [ht.contents, h.contents, h.zone, hid, ← h.length, List.append_assoc]
    congr 1
    rcases Nat.lt_trichotomy k shares.length with hk | hk | hk
    · simp [List.getD_eq_getElem?_getD, List.getElem?_append_left hk, Nat.ne_of_lt hk]
    · simp [List.getD_eq_getElem?_getD, hk, Text.encode]
    · have hout : shares.length + 1 ≤ k := hk
      simp [List.getD_eq_getElem?_getD, List.getElem?_eq_none (Nat.le_of_lt hk),
        Nat.ne_of_gt hk, Text.encode, List.getElem?_append_right (Nat.le_of_lt hk),
        List.getElem?_eq_none (show [[e]].length ≤ k - shares.length by simp; omega)]
  · rw [ht.writer] at hg
    cases hg
    simp only [hid, ← h.length] at hk
    rw [List.getD_eq_getElem?_getD, List.getElem?_eq_none (by simp; omega)]
    rfl

end EventLog.Rolling
