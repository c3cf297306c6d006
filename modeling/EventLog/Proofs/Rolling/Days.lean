import EventLog.Proofs.Calendar
import EventLog.Proofs.Rolling.Grouping
import EventLog.Proofs.Rolling.Refusal

/-! The date in the name of a file against the dates of the lines in it. They agree unless two
events a whole number of weeks apart follow each other into one file. -/
namespace EventLog.Rolling

/-- A group has its file, and every line in that has the date that the name of the file carries. -/
def Dated (d : Disk) (zone : Zone) (id : Nat) (g : Group) : Prop :=
  ∃ date suffix, d.find (g.target.filePath date suffix) = .ok (.file id) ∧
    (d.body id).bytes = Text.encode (g.lines zone) ∧ ∀ e ∈ g.events, e.time.date zone = date

def Group.OfOneDate (zone : Zone) (g : Group) : Prop :=
  ∀ first ∈ g.events.head?, ∀ e ∈ g.events, e.time.date zone = first.time.date zone

variable {zone : Zone} {target : Target} {calls : List Call}

private theorem ofOneDate_iff_isChain (target : Target) (events : List Event) :
    Group.OfOneDate zone ⟨target, events⟩ ↔
      events.IsChain fun a b => a.time.date zone = b.time.date zone := by
  let r (a b : Event) : Prop := a.time.date zone = b.time.date zone
  have : Trans r r r := ⟨Eq.trans⟩
  change _ ↔ events.IsChain r
  rw [List.isChain_iff_pairwise]
  cases events with
  | nil => simp [Group.OfOneDate]
  | cons first rest =>
    constructor
    · intro h
      have hdate : ∀ e ∈ first :: rest, e.time.date zone = first.time.date zone := h first rfl
      apply List.pairwise_of_forall_mem_list
      intro a ha b hb
      exact (hdate a ha).trans (hdate b hb).symm
    · intro h head hhead e he
      cases hhead
      rcases List.mem_cons.mp he with rfl | he
      · rfl
      · exact ((List.pairwise_cons.mp h).1 e he).symm

private theorem byWeekday_ofOneDate_iff (g : Group) :
    (∀ part ∈ g.byWeekday zone, part.OfOneDate zone) ↔
      g.events.IsChain fun a b =>
        sameWeekday zone a b = true → a.time.date zone = b.time.date zone := by
  have hnil := List.nil_notMem_splitBy (sameWeekday zone) g.events
  have hcuts := List.isChain_getLast_head_splitBy (sameWeekday zone) g.events
  conv_rhs => rw [← List.flatten_splitBy (sameWeekday zone) g.events, List.isChain_flatten hnil]
  constructor
  · intro h
    -- Where two parts meet the weekday changes, so nothing is asked of the events there.
    refine ⟨fun part hpart => ?_, hcuts.imp ?_⟩
    · have hone := h ⟨g.target, part⟩ (List.mem_map_of_mem hpart)
      exact ((ofOneDate_iff_isChain _ _).mp hone).imp fun a b hab _ => hab
    · rintro before after ⟨hb, ha, hcut⟩ x hx y hy hsame
      rw [List.getLast?_eq_some_getLast hb, Option.mem_some] at hx
      rw [List.head?_eq_some_head ha, Option.mem_some] at hy
      rw [hx, hy, hsame] at hcut
      cases hcut
  · rintro ⟨h, -⟩ part hpart
    obtain ⟨events, hevents, rfl⟩ := List.mem_map.mp hpart
    have hday := List.isChain_of_mem_splitBy hevents
    refine (ofOneDate_iff_isChain _ _).mpr (List.isChain_iff_getElem.mpr fun i hi => ?_)
    exact (h events hevents).getElem i hi (hday.getElem i hi)

private theorem groups_ofOneDate_iff (zone : Zone) (target : Target) (calls : List Call) :
    (∀ g ∈ groups zone target calls, g.OfOneDate zone) ↔
      ∀ g ∈ stretches target calls, g.events.IsChain fun a b =>
        7 ∣ b.time.dayNumber zone - a.time.dayNumber zone →
          a.time.dayNumber zone = b.time.dayNumber zone := by
  have hday (a b : Event) : (sameWeekday zone a b = true → a.time.date zone = b.time.date zone) =
      (7 ∣ b.time.dayNumber zone - a.time.dayNumber zone →
        a.time.dayNumber zone = b.time.dayNumber zone) := by
    rw [sameWeekday, decide_eq_true_iff, Instant.weekday_eq_iff, Instant.date_eq_iff]
  simp only [← hday, ← byWeekday_ofOneDate_iff, groups, List.mem_flatMap]
  constructor
  · intro h g hg part hpart
    exact h part ⟨g, hg, hpart⟩
  · rintro h part ⟨g, hg, hpart⟩
    exact h g hg part hpart

private theorem dated_iff {d : Disk} {base : Nat} {gs : List Group}
    (h : ∀ k g, gs[k]? = some g → Filed d zone (base + k) g) :
    (∀ k g, gs[k]? = some g → Dated d zone (base + k) g) ↔ ∀ g ∈ gs, g.OfOneDate zone := by
  constructor
  · intro hdated g hg first hfirst e he
    obtain ⟨k, hk⟩ := List.mem_iff_getElem?.mp hg
    obtain ⟨date, suffix, -, -, hall⟩ := hdated k g hk
    rw [hall e he, hall first (List.mem_of_mem_head? hfirst)]
  · intro hone k g hk
    obtain ⟨first, hfirst, suffix, hfind, hbytes⟩ := h k g hk
    exact ⟨_, suffix, hfind, hbytes, hone g (List.mem_of_getElem? hk) first hfirst⟩

/-- A disk that refuses bytes gets no line. On any other the files are those of the groups of the
events that were taken, each named for the date of its first event, and all lines have the date
that the name of their file carries just if no two neighbouring events without a close or a redirect
between them lie a whole number of weeks apart, other than none. -/
theorem dated_iff_no_weeks_between (d : Disk) (target : Target) (zone : Zone) (calls : List Call) :
    let out := (course d { target, zone } (calls ++ [.close])).disk
    let taken := heeded d { target, zone } calls
    (d.refusesBytes.isSome → ∀ k, (out.body k).bytes = (d.body k).bytes) ∧
    (d.refusesBytes = none →
      Filing d { target, zone } zone d.files.length (groups zone target taken) out ∧
      ((∀ k g, (groups zone target taken)[k]? = some g → Dated out zone (d.files.length + k) g) ↔
        ∀ g ∈ stretches target taken, g.events.IsChain fun a b =>
          7 ∣ b.time.dayNumber zone - a.time.dayNumber zone →
            a.time.dayNumber zone = b.time.dayNumber zone)) := by
  intro out taken
  constructor
  · intro h
    obtain ⟨fault, hfault⟩ := Option.isSome_iff_exists.mp h
    exact (barred_course _ hfault).bytes
  · intro h
    have hfiling := filing_course calls (w := { target, zone }) ⟨h, fun f hf => by cases hf⟩
      (.closed rfl)
    refine ⟨hfiling, (dated_iff hfiling.filed).trans ?_⟩
    exact groups_ofOneDate_iff zone target taken

/-- An event and one of a week later stand in one file, named for the date of the first. -/
theorem two_dates_in_one_file :
    let logs : Target := ⟨⟨Text.encode "logs".toList⟩, "app"⟩
    let first : Event := ⟨0, .info, ⟨1704103200000000000⟩, "svc", "up"⟩
    let later : Event := ⟨1, .info, ⟨1704708000000000000⟩, "svc", "down"⟩
    let out := (course {} { target := logs } ([.write first, .write later] ++ [.close])).disk
    out.files.length = 1 ∧ Filed out {} 0 ⟨logs, [first, later]⟩ ∧
      ¬ Dated out {} 0 ⟨logs, [first, later]⟩ ∧
      first.time.date {} = ⟨2024, 1, 1⟩ ∧ later.time.date {} = ⟨2024, 1, 8⟩ := by
  intro logs first later out
  have hheeded : heeded {} { target := logs } [.write first, .write later] =
      [.write first, .write later] := by cbv
  have hgroups : groups {} logs [.write first, .write later] = [⟨logs, [first, later]⟩] := by
    decide +kernel
  obtain ⟨-, hwritten⟩ := dated_iff_no_weeks_between {} logs {} [.write first, .write later]
  rw [hheeded, hgroups] at hwritten
  obtain ⟨hfiling, -⟩ := hwritten rfl
  have hfirst : first.time.date {} = ⟨2024, 1, 1⟩ := by decide
  have hlater : later.time.date {} = ⟨2024, 1, 8⟩ := by decide
  refine ⟨hfiling.length, hfiling.filed 0 _ rfl, ?_, hfirst, hlater⟩
  rintro ⟨date, suffix, -, -, hall⟩
  have heq : first.time.date {} = later.time.date {} :=
    (hall first (by simp)).trans (hall later (by simp)).symm
  rw [hfirst, hlater] at heq
  cases heq

end EventLog.Rolling
