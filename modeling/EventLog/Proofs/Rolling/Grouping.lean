import EventLog.Proofs.Rolling.Contents
import EventLog.Proofs.Rolling.History
import Mathlib

/-! The files of a run against the groups of its history. -/
namespace EventLog.Rolling

/-- A group has its file: the path that its first event gave leads to it, and it holds the lines of
the group and nothing else. -/
def Filed (d : Disk) (zone : Zone) (id : Nat) (g : Group) : Prop :=
  ∃ first ∈ g.events.head?, ∃ suffix,
    d.find (g.target.filePath (first.time.date zone) suffix) = .ok (.file id) ∧
    (d.body id).bytes = Text.encode (g.lines zone)

/-- What is left to be done for some groups in a run that ends with `out`: they get the files from
`base` on, and the files before keep what they were to have. -/
structure Filing (d : Disk) (w : Rolling) (zone : Zone) (base : Nat) (gs : List Group)
    (out : Disk) : Prop where
  keeps : d.Keeps out
  length : out.files.length = base + gs.length
  before : ∀ k < base, (out.body k).bytes = contents d w k
  filed : ∀ k g, gs[k]? = some g → Filed out zone (base + k) g

/-- The events that the open file holds so far, where `base` files lie before it. -/
inductive Pending (d : Disk) (w : Rolling) : (base : Nat) → List Event → Prop
  | closed (current : w.current = none) : Pending d w d.files.length []
  | begun {f : OpenFile} {first : Event} {rest : List Event} {suffix : UInt64}
      (current : w.current = some f) (id : f.id + 1 = d.files.length)
      (weekday : ∀ e ∈ first :: rest, e.time.weekday w.zone = f.weekday)
      (path : f.path = w.target.filePath (first.time.date w.zone) suffix)
      (found : d.find f.path = .ok (.file f.id))
      (lines : contents d w f.id = Text.encode (Group.lines w.zone ⟨w.target, first :: rest⟩)) :
      Pending d w f.id (first :: rest)

variable {d d' out : Disk} {w w' : Rolling} {zone : Zone} {base : Nat} {begun : List Event}
  {gs : List Group}

private theorem Filing.of_step (keeps : d.Keeps d')
    (same : ∀ k < base, contents d' w' k = contents d w k)
    (h : Filing d' w' zone base gs out) : Filing d w zone base gs out :=
  ⟨keeps.trans h.keeps, h.length, fun k hk => (h.before k hk).trans (same k hk), h.filed⟩

private theorem Filing.cut (hp : Pending d w base begun) (keeps : d.Keeps d')
    (same : ∀ k < d.files.length, contents d' w' k = contents d w k)
    (h : Filing d' w' w.zone d.files.length gs out) :
    Filing d w w.zone base (Group.byWeekday w.zone ⟨w.target, begun⟩ ++ gs) out := by
  cases hp with
  | closed current =>
    rw [byWeekday_nil]
    exact h.of_step keeps same
  | @begun f first rest suffix current id weekday path found lines =>
    rw [byWeekday_of_same (by simp) weekday]
    have hlt : f.id < d.files.length := by omega
    refine ⟨keeps.trans h.keeps, ?_, fun k hk => ?_, fun k g hg => ?_⟩
    · rw [h.length, ← id]
      simp only [List.length_append, List.length_singleton]
      omega
    · rw [h.before k (by omega), same k (by omega)]
    · cases k with
      | zero =>
        cases hg
        refine ⟨first, rfl, suffix, ?_, ?_⟩
        · rw [← path]
          exact Disk.find_of_keeps (keeps.trans h.keeps) found
        · rw [Nat.add_zero, h.before _ hlt, same _ hlt, lines]
      | succ k =>
        have hfiled := h.filed k g hg
        rwa [show d.files.length + k = f.id + (k + 1) by omega] at hfiled

private theorem Filing.done (hc : w.current = none) (hb : base = d.files.length) :
    Filing d w zone base [] d := by
  refine ⟨.refl d, by simp [hb], fun k _ => ?_, fun k g hg => by cases hg⟩
  simp [contents, waitingFor, hc]

private theorem Pending.took {f : OpenFile} {waiting : Array UInt8} {e : Event}
    (hp : Pending d w base begun) (hf : w.current = some f)
    (hlength : (w.write d e).disk.files.length = d.files.length)
    (ht : Took d w e (w.write d e) { f with waiting }) :
    Pending (w.write d e).disk (w.write d e).writer base (begun ++ [e]) := by
  cases hp with
  | closed current =>
    rw [hf] at current
    cases current
  | @begun g first rest suffix current id weekday path found lines =>
    rw [hf] at current
    cases current
    have hw := ht.writer
    refine .begun (f := { f with waiting }) (by rw [hw]) (by rw [hlength, ← id]) ?_
      (by rw [hw]; exact path) (Disk.find_of_keeps ht.keeps found) ?_
    · rw [hw]
      intro a ha
      have hmem : a ∈ (first :: rest) ++ [e] := ha
      rcases List.mem_append.mp hmem with ha | ha
      · exact weekday a ha
      · rw [List.mem_singleton.mp ha]
        exact ht.weekday.symm
    · rw [ht.contents, lines, hw]
      simp [Group.lines, Text.encode_append]

private theorem Pending.settled {r : Rolled} (hp : Pending d w base begun) (hs : Settled d w r)
    (hw : r.writer = { w with current := w.current.map ({ · with waiting := #[] }) }) :
    Pending r.disk r.writer base begun := by
  cases hp with
  | closed current =>
    rw [← hs.length]
    exact .closed (by rw [hw, current]; rfl)
  | @begun f first rest suffix current id weekday path found lines =>
    refine .begun (f := { f with waiting := #[] }) (by rw [hw, current]; rfl)
      (by rw [hs.length, ← id]) ?_ (by rw [hw]; exact path) (Disk.find_of_keeps hs.keeps found) ?_
    · rw [hw]
      exact weekday
    · rw [hs.contents, lines, hw]

private theorem Pending.refused (hp : Pending d w base begun) (keeps : d.Keeps d')
    (files : d'.files = d.files) : Pending d' w base begun := by
  cases hp with
  | closed current =>
    rw [← files]
    exact .closed current
  | begun current id weekday path found lines =>
    refine .begun current (by rw [files, id]) weekday path (Disk.find_of_keeps keeps found) ?_
    rw [← lines]
    exact contents_of_files files w _

private theorem Pending.opened {f : OpenFile} {waiting : Array UInt8} {e : Event} (h : Ready d w)
    (ho : w.target.openFile d w.zone e.time = (d', .ok f))
    (hlength : (w.write d e).disk.files.length = d.files.length + 1)
    (ht : Took d w e (w.write d e) { f with waiting })
    (hfind : (w.write d e).disk.find f.path = .ok (.file f.id)) :
    Pending (w.write d e).disk (w.write d e).writer d.files.length [e] := by
  obtain ⟨-, -, ⟨suffix, hnew⟩, -⟩ := Target.openFile_eq_ok ho
  have hid : f.id = d.files.length := by rw [hnew]
  have hw := ht.writer
  have hempty : contents d w d.files.length = [] := contents_new h (Nat.le_refl _)
  rw [← hid]
  refine .begun (f := { f with waiting }) (by rw [hw]) (by rw [hlength, ← hid]) ?_
    (by rw [hw, hnew]) hfind ?_
  · rw [hw]
    intro a ha
    rw [List.mem_singleton.mp ha]
    exact ht.weekday.symm
  · rw [ht.contents, hid, hempty, hw]
    simp [Group.lines]

private theorem Pending.differs {e : Event} (hp : Pending d w base begun)
    (hn : w.needsFile e = true) : ∀ last ∈ begun.getLast?, sameWeekday w.zone last e = false := by
  intro last hlast
  cases hp with
  | closed => cases hlast
  | begun current id weekday path found lines =>
    rw [needsFile, current] at hn
    have hday := weekday last (List.mem_of_mem_getLast? hlast)
    have hne := of_decide_eq_true hn
    rw [← hday] at hne
    exact decide_eq_false hne

private theorem Pending.eq_id {f : OpenFile} (hp : Pending d w base begun)
    (hf : w.current = some f) : base = f.id := by
  cases hp with
  | closed current =>
    rw [hf] at current
    cases current
  | begun current =>
    rw [hf] at current
    cases current
    rfl

private theorem map_write_snoc (begun : List Event) (e : Event) (calls : List Call) :
    (begun ++ [e]).map Call.write ++ calls = begun.map .write ++ .write e :: calls := by
  simp

private theorem Filing.took {f : OpenFile} {waiting : Array UInt8} {e : Event} {calls : List Call}
    (hp : Pending d w base begun) (hf : w.current = some f)
    (ht : Took d w e (w.write d e) { f with waiting })
    (h : Filing (w.write d e).disk (w.write d e).writer w.zone base
      (groups w.zone w.target ((begun ++ [e]).map .write ++ calls)) out) :
    Filing d w w.zone base (groups w.zone w.target (begun.map .write ++ .write e :: calls))
      out := by
  rw [map_write_snoc] at h
  refine h.of_step ht.keeps fun k hk => ?_
  rw [hp.eq_id hf] at hk
  rw [ht.contents, if_neg (Nat.ne_of_lt hk), List.append_nil]

private theorem Filing.opened {f : OpenFile} {waiting : Array UInt8} {e : Event}
    {calls : List Call} (hp : Pending d w base begun) (hn : w.needsFile e = true)
    (ho : w.target.openFile d w.zone e.time = (d', .ok f))
    (ht : Took d w e (w.write d e) { f with waiting })
    (h : Filing (w.write d e).disk (w.write d e).writer w.zone d.files.length
      (groups w.zone w.target (.write e :: calls)) out) :
    Filing d w w.zone base (groups w.zone w.target (begun.map .write ++ .write e :: calls))
      out := by
  obtain ⟨-, -, ⟨suffix, hnew⟩, -⟩ := Target.openFile_eq_ok ho
  have hid : f.id = d.files.length := by rw [hnew]
  rw [groups_rollover (hp.differs hn)]
  refine h.cut hp ht.keeps fun k hk => ?_
  rw [← hid] at hk
  rw [ht.contents, if_neg (Nat.ne_of_lt hk), List.append_nil]

/-- Whatever a run does from now on, every group of its history gets a file of its own. -/
theorem filing_course (calls : List Call) {d : Disk} {w : Rolling} {base : Nat}
    {begun : List Event} (h : Ready d w) (hp : Pending d w base begun) :
    Filing d w w.zone base (groups w.zone w.target (begun.map .write ++ heeded d w calls))
      (course d w (calls ++ [.close])).disk := by
  -- `begun` carries what the open file holds, so a call that leaves that file behind cuts a group.
  induction calls generalizing d w base begun with
  | nil =>
    obtain ⟨hs, hw⟩ := close_settled h
    rw [heeded, groups_nil]
    refine Filing.cut hp hs.keeps (fun k _ => hs.contents k) (Filing.done ?_ hs.length.symm)
    rw [hw]
  | cons c rest ih =>
    cases c with
    | write e =>
      rcases write_cases h e with ⟨f, waiting, hf, hlength, ht⟩ |
        ⟨d₁, f, waiting, hn, ho, hlength, ht, hfind⟩ | ⟨d₁, error, hn, ho, hrefused⟩
      · have hmore := ih ht.ready (hp.took hf hlength ht)
        rw [ht.zone, ht.target] at hmore
        rw [heeded_of_ok (c := .write e) ht.result]
        exact hmore.took hp hf ht
      · have hmore := ih ht.ready (.opened h ho hlength ht hfind)
        rw [ht.zone, ht.target] at hmore
        rw [heeded_of_ok (c := .write e) ht.result]
        exact hmore.opened hp hn ho ht
      · obtain ⟨keeps, files⟩ := Target.openFile_eq_error ho
        have hrun : (Call.write e).run d w = ⟨d₁, w, [], .error error⟩ := hrefused
        have herror : ((Call.write e).run d w).result = .error error := by rw [hrun]
        have hmore := ih (h.of_files files keeps.refusesBytes) (hp.refused keeps files)
        rw [heeded_of_error herror]
        simp only [List.cons_append, course, hrun]
        exact hmore.of_step keeps fun k _ => contents_of_files files w k
    | flush =>
      obtain ⟨hs, hw⟩ := flush_settled h
      have hmore := ih hs.ready (hp.settled hs hw)
      have hsame := hs.contents
      rw [hw] at hmore hsame
      rw [heeded_of_ok (c := .flush) hs.result, groups_flush]
      simp only [List.cons_append, course, Call.run, hw]
      exact hmore.of_step hs.keeps fun k _ => hsame k
    | close =>
      obtain ⟨hs, hw⟩ := close_settled h
      have hmore := ih hs.ready (.closed (by rw [hw]))
      have hsame := hs.contents
      rw [hw] at hmore hsame
      rw [hs.length] at hmore
      rw [heeded_of_ok (c := .close) hs.result, groups_close]
      simp only [List.cons_append, course, Call.run, hw]
      exact hmore.cut hp hs.keeps fun k _ => hsame k
    | redirect next =>
      obtain ⟨hs, hw⟩ := redirect_settled h next
      have hmore := ih hs.ready (.closed (by rw [hw]))
      have hsame := hs.contents
      rw [hw] at hmore hsame
      rw [hs.length] at hmore
      rw [heeded_of_ok (c := .redirect next) hs.result, groups_redirect]
      simp only [List.cons_append, course, Call.run, hw]
      exact hmore.cut hp hs.keeps fun k _ => hsame k

private theorem opens_cons {c : Call} {rest : List Call} (h : opens d w (c :: rest) = true) :
    opens (c.run d w).disk (c.run d w).writer rest = true := by
  unfold opens at h
  exact (Bool.and_eq_true_iff.mp h).2

private theorem took_of_opens {e : Event} {rest : List Call} (h : Ready d w)
    (ho : opens d w (.write e :: rest) = true) : ∃ f, Took d w e (w.write d e) f := by
  rcases write_cases h e with ⟨f, waiting, -, -, ht⟩ | ⟨d₁, f, waiting, -, -, -, ht, -⟩ |
    ⟨d₁, error, hn, hopen, -⟩
  · exact ⟨_, ht⟩
  · exact ⟨_, ht⟩
  · simp [opens, hn, hopen, Except.isOk, Except.toBool] at ho

private theorem call_of_opens {c : Call} {rest : List Call} (h : Ready d w)
    (ho : opens d w (c :: rest) = true) :
    (c.run d w).result = .ok () ∧ (c.run d w).aside = [] ∧
      Ready (c.run d w).disk (c.run d w).writer := by
  cases c with
  | write e =>
    obtain ⟨f, ht⟩ := took_of_opens h ho
    exact ⟨ht.result, ht.aside, ht.ready⟩
  | flush =>
    obtain ⟨hs, -⟩ := flush_settled h
    exact ⟨hs.result, hs.aside, hs.ready⟩
  | close =>
    obtain ⟨hs, -⟩ := close_settled h
    exact ⟨hs.result, hs.aside, hs.ready⟩
  | redirect next =>
    obtain ⟨hs, -⟩ := redirect_settled h next
    exact ⟨hs.result, hs.aside, hs.ready⟩

/-- A run for which every file can be opened goes well from its first call to its last. -/
theorem course_of_opens (calls : List Call) {d : Disk} {w : Rolling} (h : Ready d w)
    (ho : opens d w calls = true) :
    heeded d w calls = calls ∧ (course d w (calls ++ [.close])).writer.current = none ∧
      (course d w (calls ++ [.close])).aside = [] ∧
      ∀ r ∈ (course d w (calls ++ [.close])).results, r = .ok () := by
  induction calls generalizing d w with
  | nil =>
    obtain ⟨hs, hw⟩ := close_settled h
    have hrun : Call.run d w .close = w.close d := rfl
    simp [heeded, course, hrun, hs.result, hs.aside, hw]
  | cons c rest ih =>
    obtain ⟨hresult, haside, hready⟩ := call_of_opens h ho
    obtain ⟨hheeded, hcurrent, hasides, hresults⟩ := ih hready (opens_cons ho)
    rw [heeded_of_ok hresult, hheeded]
    simp only [List.cons_append, course, hresult, haside, hasides, List.mem_cons]
    exact ⟨trivial, hcurrent, rfl, fun r hr => hr.elim id (hresults r)⟩

private theorem bytes_of_filing (hc : w.current = none)
    (h : Filing d w zone d.files.length gs out) :
    out.files.map (·.bytes) =
      d.files.map (·.bytes) ++ gs.map fun g => Text.encode (g.lines zone) := by
  have hbody (d : Disk) (k : Nat) (hk : k < d.files.length) :
      d.files[k].bytes = (d.body k).bytes := by
    rw [Disk.body, List.getD_eq_getElem?_getD, List.getElem?_eq_getElem hk]
    rfl
  apply List.ext_getElem
  · simp [h.length]
  · intro k hk hk'
    simp only [List.length_map] at hk
    rw [List.getElem_map, hbody out k hk, List.getElem_append]
    split
    · next hlt =>
      simp only [List.length_map] at hlt
      rw [h.before k hlt, List.getElem_map, hbody d k hlt, contents, waitingFor, hc,
        List.append_nil]
    · next hge =>
      simp only [List.length_map, not_lt] at hge
      have hin : k - d.files.length < gs.length := by rw [h.length] at hk; omega
      obtain ⟨first, -, suffix, -, hbytes⟩ := h.filed _ _ (List.getElem?_eq_getElem hin)
      rw [Nat.add_sub_cancel' hge] at hbytes
      simp [hbytes]

/-- If every file can be opened and the disk takes bytes, then after a last close the new files are
one for each group of the history, in order. Each stands in the directory of its group under the
prefix of that and the date of its first event, and holds the lines of the group; and the groups
together are the events that were written. -/
theorem files_eq_groups {d : Disk} {target : Target} {zone : Zone} {calls : List Call}
    (htakes : d.refusesBytes = none) (hopens : opens d { target, zone } calls = true) :
    let out := course d { target, zone } (calls ++ [.close])
    (∀ r ∈ out.results, r = .ok ()) ∧ out.aside = [] ∧ out.writer.current = none ∧
      (groups zone target calls).flatMap (·.events) = writes calls ∧
      out.disk.files.map (·.bytes) =
        d.files.map (·.bytes) ++
          (groups zone target calls).map (fun g => Text.encode (g.lines zone)) ∧
      ∀ k g, (groups zone target calls)[k]? = some g → ∃ first ∈ g.events.head?, ∃ suffix,
        let path := g.target.filePath (first.time.date zone) suffix
        out.disk.find path = .ok (.file (d.files.length + k)) ∧
          ('/' ∉ g.target.stem.toList → path.names =
            g.target.dir.names ++
              [Text.encode (g.target.fileName (first.time.date zone) suffix)]) := by
  intro out
  have hready : Ready d { target, zone } := ⟨htakes, fun f hf => by cases hf⟩
  obtain ⟨hheeded, hcurrent, haside, hresults⟩ := course_of_opens calls hready hopens
  have hfiling := filing_course calls hready (.closed rfl)
  rw [hheeded] at hfiling
  refine ⟨hresults, haside, hcurrent, flatMap_events_groups zone target calls,
    bytes_of_filing rfl hfiling, fun k g hg => ?_⟩
  obtain ⟨first, hfirst, suffix, hfind, -⟩ := hfiling.filed k g hg
  exact ⟨first, hfirst, suffix, hfind, g.target.names_filePath _ suffix⟩

/-- Two events of a Monday, one of the Tuesday after it, and one of the Monday again in another
directory. -/
theorem files_eq_groups_of_two_days :
    let logs : Target := ⟨⟨Text.encode "logs".toList⟩, "app"⟩
    let old : Target := ⟨⟨Text.encode "old".toList⟩, "app"⟩
    let monday : Event := ⟨0, .info, ⟨1704103200000000000⟩, "svc", "up"⟩
    let tuesday : Event := ⟨1, .warn, ⟨1704189600000000000⟩, "svc", "down\nagain"⟩
    let calls := [.write monday, .flush, .write monday, .write tuesday, .redirect logs,
      .redirect old, .write monday]
    ({} : Disk).refusesBytes = none ∧ opens {} ⟨logs, {}, none⟩ calls = true ∧
      (course {} ⟨logs, {}, none⟩ (calls ++ [.close])).disk.files.map (·.bytes) =
        [⟨logs, [monday, monday]⟩, ⟨logs, [tuesday]⟩, ⟨old, [monday]⟩].map fun g : Group =>
          Text.encode (g.lines {}) := by
  intro logs old monday tuesday calls
  have hopens : opens {} ⟨logs, {}, none⟩ calls = true := by cbv
  have hgroups : groups {} logs calls =
      [⟨logs, [monday, monday]⟩, ⟨logs, [tuesday]⟩, ⟨old, [monday]⟩] := by decide +kernel
  obtain ⟨-, -, -, -, hbytes, -⟩ := files_eq_groups rfl hopens
  have hnone : ({} : Disk).files.map (·.bytes) = [] := rfl
  rw [hnone, List.nil_append, hgroups] at hbytes
  exact ⟨rfl, hopens, hbytes⟩

end EventLog.Rolling
