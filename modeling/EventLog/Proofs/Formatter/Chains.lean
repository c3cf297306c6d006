import EventLog.Formatter.Standard
import Mathlib.Data.List.Pairwise
import Mathlib.Tactic.Tauto

/-! Chains of the formatters that are always there. Each of them keeps to the values of one family
or to operations of its own, so no question has two answers among them, and it is of no account in
which order they are asked or who is asked after them. -/
namespace EventLog.Formatter

inductive Family where
  | text
  | collection
  | failure
  | path
  deriving DecidableEq, Repr

def family? : Value → Option Family
  | .text _ => some .text
  | .seq _ | .map _ => some .collection
  | .failure _ _ => some .failure
  | .path _ => some .path
  | _ => none

def Family.operations : Family → List String
  | text => textOperations.map (·.1)
  | collection => mapOperations.map (·.1)
  | failure => failureOperations.map (·.1)
  | path => pathOperations.map (·.1)

/-- A formatter answers nothing but the operations of a family on its values. -/
def Serves (f : Formatter) (fam : Family) : Prop :=
  ∀ ⦃disk v operation⦄, f disk v operation ≠ none →
    family? v = some fam ∧ operation ∈ fam.operations

private theorem mem_of_lookup {β : Type} {table : List (String × β)} {key : String}
    (h : table.lookup key ≠ none) : key ∈ table.map (·.1) := by
  obtain ⟨entry, hentry, hkey⟩ := List.lookup_isSome_iff.mp (Option.isSome_iff_ne_none.mpr h)
  rw [beq_iff_eq.mp hkey]
  exact List.mem_map_of_mem hentry

private theorem texts_serves : Serves texts .text := by
  intro disk v operation h
  unfold texts at h
  split at h
  · exact ⟨rfl, mem_of_lookup (mt Option.map_eq_none_iff.mpr h)⟩
  · exact absurd rfl h

private theorem collections_serves : Serves collections .collection := by
  intro disk v operation h
  unfold collections at h
  split at h
  · have hmem := mem_of_lookup (mt Option.map_eq_none_iff.mpr h)
    -- What can be asked of a sequence can be asked of a map.
    have hsub : sequenceOperations.map (·.1) ⊆ mapOperations.map (·.1) := by decide
    exact ⟨rfl, hsub hmem⟩
  · exact ⟨rfl, mem_of_lookup (mt Option.map_eq_none_iff.mpr h)⟩
  · exact absurd rfl h

private theorem failures_serves : Serves failures .failure := by
  intro disk v operation h
  unfold failures at h
  split at h
  · exact ⟨rfl, mem_of_lookup (mt Option.map_eq_none_iff.mpr h)⟩
  · exact absurd rfl h

private theorem paths_serves : Serves paths .path := by
  intro disk v operation h
  unfold paths at h
  split at h
  · exact ⟨rfl, mem_of_lookup (mt Option.map_eq_none_iff.mpr h)⟩
  · exact absurd rfl h

private theorem mem_of_types {disk : Disk} {v : Value} {operation : String}
    (h : types disk v operation ≠ none) : operation ∈ typeOperations.map (·.1) :=
  mem_of_lookup (mt Option.map_eq_none_iff.mpr h)

/-- No family has an operation on types. -/
theorem notMem_typeOperations (fam : Family) :
    ∀ operation ∈ fam.operations, operation ∉ typeOperations.map (·.1) := by
  cases fam <;> decide

variable {f g : Formatter} {fam other : Family} {disk : Disk} {v : Value} {operation : String}

/-- Formatters of different families never answer the same question. -/
theorem Serves.apart (hf : Serves f fam) (hg : Serves g other) (h : fam ≠ other) :
    f disk v operation = none ∨ g disk v operation = none := by
  by_contra hboth
  obtain ⟨hfirst, hsecond⟩ := not_or.mp hboth
  exact h (Option.some.inj ((hf hfirst).1.symm.trans (hg hsecond).1))

/-- What is asked about types is no question about a family. -/
theorem Serves.apart_types (hf : Serves f fam) :
    f disk v operation = none ∨ types disk v operation = none := by
  by_contra hboth
  obtain ⟨hfirst, hsecond⟩ := not_or.mp hboth
  exact notMem_typeOperations fam operation (hf hfirst).2 (mem_of_types hsecond)

private theorem pairwise_standard (disk : Disk) (v : Value) (operation : String) :
    standard.Pairwise fun f g => f disk v operation = none ∨ g disk v operation = none := by
  have htexts := texts_serves
  have hcollections := collections_serves
  have hfailures := failures_serves
  have hpaths := paths_serves
  refine .cons ?_ (.cons ?_ (.cons ?_ (.cons ?_ (.cons ?_ .nil))))
  all_goals simp only [List.mem_cons, List.not_mem_nil, or_false, forall_eq_or_imp, forall_eq]
  · exact ⟨htexts.apart hcollections (by decide), htexts.apart hfailures (by decide),
      htexts.apart hpaths (by decide), htexts.apart_types⟩
  · exact ⟨hcollections.apart hfailures (by decide), hcollections.apart hpaths (by decide),
      hcollections.apart_types⟩
  · exact ⟨hfailures.apart hpaths (by decide), hfailures.apart_types⟩
  · exact hpaths.apart_types
  · exact fun _ h => h.elim

/-- Where all that answer give one answer, a chain gives it, whatever its order. -/
theorem findSome?_eq_some_iff_of_agree {α β : Type} {ask : α → Option β} {chain : List α}
    (h : ∀ a ∈ chain, ∀ b ∈ chain, ask a = none ∨ ask b = none ∨ ask a = ask b) {answer : β} :
    chain.findSome? ask = some answer ↔ ∃ a ∈ chain, ask a = some answer := by
  refine ⟨List.exists_of_findSome?_eq_some, fun ⟨a, ha, hanswer⟩ => ?_⟩
  cases hfound : chain.findSome? ask with
  | none =>
    rw [List.findSome?_eq_none_iff.mp hfound a ha] at hanswer
    cases hanswer
  | some found =>
    obtain ⟨b, hb, hfound⟩ := List.exists_of_findSome?_eq_some hfound
    rcases h a ha b hb with hnone | hnone | hsame
    · rw [hnone] at hanswer
      cases hanswer
    · rw [hnone] at hfound
      cases hfound
    · rw [← hfound, ← hsame, hanswer]

/-- Of the formatters that are always there, no two have different answers. -/
theorem agree_standard (hf : f ∈ standard) (hg : g ∈ standard) :
    f disk v operation = none ∨ g disk v operation = none ∨
      f disk v operation = g disk v operation := by
  let R (f g : Formatter) : Prop := f disk v operation = none ∨ g disk v operation = none ∨
      f disk v operation = g disk v operation
  have hsymm : Std.Symm R := ⟨fun f g h => by
    rcases h with h | h | h
    · exact .inr (.inl h)
    · exact .inl h
    · exact .inr (.inr h.symm)⟩
  have hpairs : standard.Pairwise R :=
    (pairwise_standard disk v operation).imp fun h => h.imp_right .inl
  exact hpairs.forall_of_forall (fun _ _ => .inr (.inr rfl)) hf hg

/-- The chain gives an answer just if one of the formatters that are always there has it. -/
theorem findSome?_eq_some_iff {chain : List Formatter} (hchain : ∀ f, f ∈ chain ↔ f ∈ standard)
    {text : String} : chain.findSome? (fun f => f disk v operation) = some text ↔
      ∃ f ∈ standard, f disk v operation = some text := by
  rw [findSome?_eq_some_iff_of_agree fun a ha b hb =>
    agree_standard ((hchain a).mp ha) ((hchain b).mp hb)]
  simp only [hchain]

private theorem findSome?_eq_standard {chain : List Formatter}
    (hchain : ∀ f, f ∈ chain ↔ f ∈ standard) : chain.findSome? (fun f => f disk v operation) =
      standard.findSome? fun f => f disk v operation := by
  refine Option.ext fun text => ?_
  rw [findSome?_eq_some_iff hchain, findSome?_eq_some_iff fun _ => Iff.rfl]

/-- No operation of the formatters that are always there is the empty one. -/
theorem ne_empty_of_answer (hf : f ∈ standard) (h : f disk v operation ≠ none) :
    operation ≠ "" := by
  have hfamily {fam : Family} (hserves : Serves f fam) : operation ≠ "" := by
    have hmem := (hserves h).2
    rintro rfl
    revert hmem
    cases fam <;> decide
  simp only [standard, List.mem_cons, List.not_mem_nil, or_false] at hf
  rcases hf with rfl | rfl | rfl | rfl | rfl
  · exact hfamily texts_serves
  · exact hfamily collections_serves
  · exact hfamily failures_serves
  · exact hfamily paths_serves
  · have hmem := mem_of_types h
    rintro rfl
    revert hmem
    decide

/-- Of the formatters that are always there at most one answers an operation on a value, whatever
stands on the disk. So in any order and however often each of them is in a chain, the chain gives
one text, or one error; and whoever is asked after them, what one of them answers stays. -/
theorem order_of_no_account (disk : Disk) (v : Value) (operation : String) :
    standard.Pairwise (fun f g => f disk v operation = none ∨ g disk v operation = none) ∧
    ∀ chain : List Formatter, (∀ f, f ∈ chain ↔ f ∈ standard) →
      formatArgument chain disk v operation = formatArgument standard disk v operation ∧
      (∀ e, formatArgument chain disk v operation = .error e →
        e.kind = .unsupportedFormatOperation ∧ ∀ f ∈ standard, f disk v operation = none) ∧
      ∀ f ∈ standard, ∀ text, f disk v operation = some text → ∀ custom : List Formatter,
        formatArgument (chain ++ custom) disk v operation =
          .ok (if v.isNull then "null" else text) := by
  refine ⟨pairwise_standard disk v operation, fun chain hchain => ⟨?_, fun e he => ?_, ?_⟩⟩
  · rw [formatArgument, formatArgument, findSome?_eq_standard hchain]
  · unfold formatArgument at he
    split at he
    · cases he
    · split at he
      · cases he
      · split at he
        · cases he
        · next hnone =>
          cases he
          rw [findSome?_eq_standard hchain] at hnone
          exact ⟨rfl, List.findSome?_eq_none_iff.mp hnone⟩
  · intro f hf text htext custom
    have hempty := ne_empty_of_answer hf (by rw [htext]; simp)
    have hfound := (findSome?_eq_some_iff hchain).mpr ⟨f, hf, htext⟩
    rw [formatArgument, if_neg hempty, List.findSome?_append, hfound]
    split <;> rfl

/-- The formatters in another order, one of them twice, and another after them that would answer
everything: the length of a text is what it was. -/
theorem order_of_no_account_of_six :
    let chain := [types, paths, texts, types, failures, collections]
    let shout : Formatter := fun _ _ _ => some "A!"
    (∀ f, f ∈ chain ↔ f ∈ standard) ∧ texts ∈ standard ∧
      texts {} (.text "abc") "length" = some "3" ∧
      formatArgument (chain ++ [shout]) {} (.text "abc") "length" = .ok "3" ∧
      formatArgument chain {} (.text "abc") "size" =
        formatArgument standard {} (.text "abc") "size" := by
  intro chain shout
  have hchain : ∀ f, f ∈ chain ↔ f ∈ standard := by
    intro f
    simp only [chain, standard, List.mem_cons, List.not_mem_nil, or_false]
    tauto
  have htexts : texts ∈ standard := List.mem_cons_self
  have hlength : texts {} (.text "abc") "length" = some "3" := rfl
  have hkept := ((order_of_no_account {} (.text "abc") "length").2 chain hchain).2.2
  have hsame := ((order_of_no_account {} (.text "abc") "size").2 chain hchain).1
  exact ⟨hchain, htexts, hlength, hkept texts htexts "3" hlength [shout], hsame⟩

end EventLog.Formatter
