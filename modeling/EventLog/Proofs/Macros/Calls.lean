import EventLog.Proofs.Macros.Registration

/-! Calls to register texts, each with its answer. A refused call leaves the registry as it was, so
at any time it holds what it started with and the texts accepted since; a name stands for the first
text that came with it. -/
namespace EventLog.Macros

/-- A call to register a text: the registry from then on, and the answer. -/
def attempt (ms : Macros) (m : SiteMacro) : Macros × Except Error Unit :=
  match ms.register m with
  | .ok more => (more, .ok ())
  | .error e => (ms, .error e)

/-- Calls one after the other: the registry after the last, and the answers. -/
def attempts (ms : Macros) : List SiteMacro → Macros × List (Except Error Unit)
  | [] => (ms, [])
  | m :: rest =>
    let more := (ms.attempt m).1.attempts rest
    (more.1, (ms.attempt m).2 :: more.2)

def accepted (ms : Macros) (calls : List SiteMacro) : List SiteMacro :=
  ((calls.zip (ms.attempts calls).2).filter (·.2.isOk)).map (·.1)

variable {ms base : Macros} {m : SiteMacro} {calls : List SiteMacro}

/-- A call is answered well just if its name is one and new; else it is refused, and nothing
changes. -/
theorem attempt_cases (before : List SiteMacro) (m : SiteMacro) :
    (∃ e, attempt ⟨before⟩ m = (⟨before⟩, .error e) ∧ Refusal before m e) ∨
      (m.name.toList.head? = some '@' ∧ m.name ∉ before.map SiteMacro.name ∧
        attempt ⟨before⟩ m = (⟨before ++ [m]⟩, .ok ())) := by
  rcases register_cases before m with ⟨e, he, hrefusal⟩ | ⟨hnamed, hnew, hok⟩
  · exact .inl ⟨e, by rw [attempt, he], hrefusal⟩
  · exact .inr ⟨hnamed, hnew, by rw [attempt, hok]⟩

private theorem attempts_append (ms : Macros) (first rest : List SiteMacro) :
    ms.attempts (first ++ rest) =
      (((ms.attempts first).1.attempts rest).1,
        (ms.attempts first).2 ++ ((ms.attempts first).1.attempts rest).2) := by
  induction first generalizing ms with
  | nil => rfl
  | cons m first ih => rw [List.cons_append, attempts, attempts, ih]; rfl

@[simp] theorem length_attempts (ms : Macros) (calls : List SiteMacro) :
    (ms.attempts calls).2.length = calls.length := by
  induction calls generalizing ms with
  | nil => rfl
  | cons m rest ih => rw [attempts, List.length_cons, ih, List.length_cons]

private theorem accepted_cons (ms : Macros) (m : SiteMacro) (rest : List SiteMacro) :
    ms.accepted (m :: rest) =
      (if (ms.attempt m).2.isOk then [m] else []) ++ (ms.attempt m).1.accepted rest := by
  rw [accepted, attempts, List.zip_cons_cons, List.filter_cons]
  split <;> rfl

/-- The registry holds what it started with, and after it the texts accepted since. -/
theorem attempts_eq (before calls : List SiteMacro) :
    (attempts ⟨before⟩ calls).1 = ⟨before ++ accepted ⟨before⟩ calls⟩ := by
  induction calls generalizing before with
  | nil => exact congrArg mk (List.append_nil before).symm
  | cons m rest ih =>
    rw [attempts, accepted_cons]
    rcases attempt_cases before m with ⟨e, heq, -⟩ | ⟨-, -, heq⟩
    · rw [heq]
      exact ih before
    · rw [heq]
      exact (ih (before ++ [m])).trans (congrArg mk (List.append_assoc ..))

/-- What a registry can hold it still can after more calls. -/
theorem Registrable.attempts {before : List SiteMacro} (h : Registrable before)
    (calls : List SiteMacro) : Registrable (before ++ accepted ⟨before⟩ calls) := by
  induction calls generalizing before with
  | nil => rwa [accepted, List.zip_nil_left, List.filter_nil, List.map_nil, List.append_nil]
  | cons m rest ih =>
    rw [accepted_cons]
    rcases attempt_cases before m with ⟨e, heq, -⟩ | ⟨hnamed, hnew, heq⟩
    · rw [heq]
      exact ih h
    · rw [heq, ← List.append_assoc]
      exact ih (registrable_snoc_iff.mpr ⟨h, hnamed, hnew⟩)

/-- Under a new name the first call with it is the one that is accepted. -/
theorem find?_accepted {before : List SiteMacro} {name : String}
    (hname : name.toList.head? = some '@') (hnew : name ∉ before.map SiteMacro.name)
    (calls : List SiteMacro) :
    (accepted ⟨before⟩ calls).find? (·.name = name) = calls.find? (·.name = name) := by
  induction calls generalizing before with
  | nil => rfl
  | cons m rest ih =>
    rw [accepted_cons]
    by_cases hm : m.name = name
    · rcases attempt_cases before m with ⟨e, -, hrefusal⟩ | ⟨-, -, heq⟩
      · cases hrefusal with
        | unnamed named => exact absurd (hm ▸ hname) named
        | repeated _ earlier => exact absurd (hm ▸ earlier) hnew
      · rw [heq]
        simp [Except.isOk, Except.toBool, hm]
    · rw [List.find?_cons_of_neg (by simpa using hm)]
      rcases attempt_cases before m with ⟨e, heq, -⟩ | ⟨-, -, heq⟩
      · rw [heq]
        exact ih hnew
      · have hnew' : name ∉ (before ++ [m]).map SiteMacro.name := by
          simpa [Ne.symm hm] using hnew
        rw [heq, ← ih hnew']
        simp [Except.isOk, Except.toBool, hm]

theorem registrable_standard : Registrable Macros.standard.renderers := by
  refine ⟨fun m hm => ?_, by decide⟩
  simp only [standard, List.mem_cons, List.not_mem_nil, or_false] at hm
  rcases hm with rfl | rfl | rfl | rfl | rfl <;> rfl

private theorem answer_of_split (base before : List SiteMacro) (m : SiteMacro)
    (rest : List SiteMacro) :
    let held := base ++ accepted ⟨base⟩ before
    (attempts ⟨base⟩ (before ++ m :: rest)).2[before.length]? = some (attempt ⟨held⟩ m).2 ∧
      (attempts ⟨base⟩ (before ++ [m])).1 = (attempt ⟨held⟩ m).1 := by
  simp only [attempts_append, attempts_eq, attempts, and_true]
  have hlength := length_attempts ⟨base⟩ before
  rw [List.getElem?_append_right (Nat.le_of_eq hlength), hlength, Nat.sub_self]
  rfl

/-- Whatever is registered in a registry that starts empty or with the texts that are always known,
it holds these and the texts accepted since. A call is accepted just if its name starts with the
sigil and none of the texts held by then has it; else it is refused for the first of the two that
fails, and changes nothing. Each text that is held is found under its own name, which is the first
that came with a new name; no other name is known. -/
theorem first_of_each_name_kept (base : Macros) (hbase : base = {} ∨ base = .standard)
    (calls : List SiteMacro) :
    let held := base.renderers ++ base.accepted calls
    let after := (base.attempts calls).1
    Registrable held ∧ after = ⟨held⟩ ∧
    (∀ before m rest, calls = before ++ m :: rest →
      let heldThen := base.renderers ++ base.accepted before
      let answer := (base.attempts calls).2[before.length]?
      (answer = some (.ok ()) ↔
        m.name.toList.head? = some '@' ∧ m.name ∉ heldThen.map SiteMacro.name) ∧
      (answer ≠ some (.ok ()) → (base.attempts (before ++ [m])).1 = (base.attempts before).1 ∧
        ∃ e, answer = some (.error e) ∧ Refusal heldThen m e)) ∧
    (∀ name, after.contains name = true ↔ name ∈ held.map SiteMacro.name) ∧
    (∀ m ∈ held, ∀ site, after.resolve m.name site = .ok (m.render site)) ∧
    (∀ name m, name.toList.head? = some '@' → name ∉ base.renderers.map SiteMacro.name →
      calls.find? (·.name = name) = some m → m ∈ base.accepted calls) ∧
    (∀ name, name ∉ held.map SiteMacro.name → ∀ site, ∃ e,
      after.resolve name site = .error e ∧ e.kind = .unknownMacro ∧
        e.context? "name" = some name) := by
  intro held after
  have hregistrable : Registrable base.renderers := by
    rcases hbase with rfl | rfl
    · exact .nil
    · exact registrable_standard
  have hheld : Registrable held := hregistrable.attempts calls
  have hafter : after = ⟨held⟩ := attempts_eq base.renderers calls
  refine ⟨hheld, hafter, ?_, fun name => ?_, fun m hm site => ?_, ?_, fun name hname site => ?_⟩
  · rintro before m rest rfl heldThen answer
    obtain ⟨hanswer, hleft⟩ := answer_of_split base.renderers before m rest
    have hbefore : (base.attempts before).1 = ⟨heldThen⟩ := attempts_eq base.renderers before
    change answer = _ at hanswer
    change (base.attempts (before ++ [m])).1 = _ at hleft
    rw [hanswer, hleft, hbefore]
    rcases attempt_cases heldThen m with ⟨e, heq, hrefusal⟩ | ⟨hnamed, hnew, heq⟩
    · rw [heq]
      refine ⟨⟨fun hok => ?_, fun ⟨hnamed, hnew⟩ => ?_⟩, fun _ => ⟨rfl, e, rfl, hrefusal⟩⟩
      · cases hok
      cases hrefusal with
      | unnamed named => exact absurd hnamed named
      | repeated _ earlier => exact absurd earlier hnew
    · rw [heq]
      exact ⟨⟨fun _ => ⟨hnamed, hnew⟩, fun _ => rfl⟩, fun h => absurd rfl h⟩
  · rw [hafter]
    exact contains_iff
  · rw [hafter, resolve, find?_of_distinct hheld.distinct hm]
  · intro name m hnamed hnew hfirst
    rw [← find?_accepted hnamed hnew] at hfirst
    exact List.mem_of_find?_eq_some hfirst
  · rw [hafter, resolve, find?_eq_none_iff.mpr hname]
    exact ⟨_, rfl, rfl, rfl⟩

/-- The second text under a name is refused, and so is one under a name that was always known. -/
theorem first_of_each_name_kept_of_four :
    let node := SiteMacro.fixed "@host" "node"
    let calls := [node, .fixed "host" "none", .fixed "@line" "0", .fixed "@host" "other"]
    let run := Macros.standard.attempts calls
    (Macros.standard = {} ∨ Macros.standard = .standard) ∧
      run.2.map Except.isOk = [true, false, false, false] ∧
      (∀ site, run.1.resolve "@host" site = .ok "node") ∧
      (∀ site, run.1.resolve "@line" site = .ok (Text.number site.line)) ∧
      ∀ site, ∃ e, run.1.resolve "host" site = .error e ∧ e.kind = .unknownMacro := by
  intro node calls run
  obtain ⟨-, -, -, -, hfound, hfirst, hunknown⟩ :=
    first_of_each_name_kept .standard (.inr rfl) calls
  have hkept : node ∈ Macros.standard.accepted calls :=
    hfirst "@host" node (by decide) (by decide) rfl
  have hline : SiteMacro.line ∈ Macros.standard.renderers := by simp [standard]
  refine ⟨.inr rfl, by decide, hfound node (List.mem_append_right _ hkept),
    hfound .line (List.mem_append_left _ hline), fun site => ?_⟩
  have hname : "host" ∉ (Macros.standard.renderers ++ Macros.standard.accepted calls).map
      SiteMacro.name := by decide
  obtain ⟨e, he, hkind, -⟩ := hunknown "host" hname site
  exact ⟨e, he, hkind⟩

end EventLog.Macros
