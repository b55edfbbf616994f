/-
  QuietEmit.Proofs.Watch.Live

  What a watch does with the notices of the system. One that tells of a change and
  that the listener hears (`Listener.Hears`) makes the change wait, and the next
  turn of the loop takes up all that waits in one cycle (`Live.Kept.after_of_hears`).
  Any other notice leaves nothing to do (`Listener.pending_hear_of_not_hears`).

  Then a watch beside the run that a user would start by hand after the last change.
  The watch fixes its project file and its pass when it starts (`Live.Kept`, which
  each step preserves), and reads the project and its inputs again in every cycle.

  So the two agree whenever the fresh run compiles the same project file with the
  same pass, whatever came before (`watch_agrees_with_fresh_run`). They part where
  the project file is gone: the watch reports that as an error and waits, the fresh
  run stops. They also part where the settings change, which a watch does not read
  again (`watch_apart_from_fresh_run`).
-/
import QuietEmit.Proofs.CommandLine.Run
import QuietEmit.Proofs.Path.Bytes
import QuietEmit.Proofs.Project.Inputs
import QuietEmit.Proofs.Watch.Cycle
import QuietEmit.Watch.Live

namespace QuietEmit.Watch

/-! ## Status codes -/

/-- Taking an event does not touch the codes. -/
theorem Session.codes_take (s : Session) (e : Event) : (s.take e).2.codes = s.codes := by
  cases e with
  | diagnostic d => rfl
  | status d =>
      rw [Session.take, Session.receiveStatus]
      cases s.codes.classify d.code <;> rfl

theorem Session.codes_after (s : Session) (trace : List Event) :
    (s.after trace).codes = s.codes := by
  induction trace generalizing s with
  | nil => rfl
  | cons e trace ih =>
      calc (s.after (e :: trace)).codes = ((s.take e).2.after trace).codes := rfl
        _ = (s.take e).2.codes := ih _
        _ = s.codes := s.codes_take e

/-! ## Cycles of a prepared run -/

namespace Watched

variable {w : Watched} {q : Prepared}

/-- A cycle has the diagnostics of a run with the same project file and the same pass. -/
theorem records_of_prepared (hload : Project.load q.tree w.configPath = .ok q.project)
    (hpasses : w.passes = [q.pass]) : w.records q.tree = q.records := by
  rw [records, hload, hpasses]
  rfl

/-- A cycle leaves the files of a run with the same project file and the same pass. -/
theorem treeAfter_of_prepared (hload : Project.load q.tree w.configPath = .ok q.project)
    (hpasses : w.passes = [q.pass]) : w.treeAfter q.tree = q.written.tree q.tree := by
  rw [treeAfter, hload, hpasses]
  rfl

end Watched

/-- The watch that a prepared run comes to. -/
def watchedBy (p : Prepared) : Watched := ⟨p.settings.project, .standard, [p.pass]⟩

/-! ## Notices -/

namespace Listener

variable {l : Listener} {n : Notice}

/-- A notice tells of a change, in a path that is let through and was not just listened to. -/
structure Hears (l : Listener) (n : Notice) : Prop where
  watched : l.filter.ignores n.path = false
  unrepeated : l.repeats n = false
  change : n.change?.isSome = true

/-- The path of a change is that of its notice. -/
theorem path_of_change? {c : Change} (h : n.change? = some c) : c.path = n.path := by
  obtain ⟨kind, path, time⟩ := n
  cases kind <;> cases h <;> rfl

theorem hear_of_ignores (h : l.filter.ignores n.path = true) : l.hear n = l := by
  rw [hear, h, Bool.true_or, if_pos rfl]

theorem hear_of_repeats (h : l.repeats n = true) : l.hear n = l := by
  rw [hear, h, Bool.or_true, if_pos rfl]

/-- A notice that is heard makes a change of its path wait behind the others. -/
theorem hear_of_hears (h : l.Hears n) :
    ∃ c, c.path = n.path ∧
      l.hear n = { l with last := some (n.path, n.time), pending := l.pending ++ [c] } := by
  obtain ⟨c, hc⟩ := Option.isSome_iff_exists.mp h.change
  refine ⟨c, path_of_change? hc, ?_⟩
  rw [hear, h.watched, h.unrepeated, hc]
  rfl

/-- Listening does not touch the filter. -/
theorem filter_hear (l : Listener) (n : Notice) : (l.hear n).filter = l.filter := by
  rw [hear]
  split <;> rfl

/-- A change that waits goes on waiting, whatever is heard. -/
theorem pending_prefix_hear (l : Listener) (n : Notice) : l.pending <+: (l.hear n).pending := by
  rw [hear]
  split
  · exact List.prefix_refl _
  · exact List.prefix_append _ _

/-- A notice that is not heard makes nothing wait. -/
theorem pending_hear_of_not_hears (h : ¬ l.Hears n) : (l.hear n).pending = l.pending := by
  rw [hear]
  split
  · rfl
  · next hheard =>
      rw [Bool.or_eq_true, not_or, Bool.not_eq_true, Bool.not_eq_true] at hheard
      have hnone : n.change? = none := by
        rw [← Option.not_isSome_iff_eq_none]
        exact fun hchange => h ⟨hheard.1, hheard.2, hchange⟩
      simp [hnone]

/-- A batch has the paths of the changes that wait, one after the other and each of them once. -/
theorem batch_eq_pending (l : Listener) :
    (∀ p ∈ l.batch, ∃ c ∈ l.pending, c.path = p) ∧
    (∀ c ∈ l.pending, ∃ p ∈ l.batch, p.same c.path = true) ∧
    l.batch.Pairwise fun p q => p.spelled.cmp q.spelled = .lt := by
  let paths := (l.pending.map fun c => c.path.spelled).mergeSort Path.le
  have hmem : ∀ p, p ∈ paths ↔ ∃ c ∈ l.pending, c.path.spelled = p := fun p => by
    rw [List.mem_mergeSort, List.mem_map]
  have hspelled : ∀ p ∈ dropRepeated paths, (OsPath.ofSpelled p).spelled = p := by
    intro p hp
    obtain ⟨c, -, rfl⟩ := (hmem p).mp ((dropRepeated_sublist paths).subset hp)
    rw [OsPath.ofSpelled_spelled]
  refine ⟨?_, ?_, ?_⟩
  · rw [batch, List.forall_mem_map]
    intro p hp
    obtain ⟨c, hc, rfl⟩ := (hmem p).mp ((dropRepeated_sublist paths).subset hp)
    exact ⟨c, hc, (OsPath.ofSpelled_spelled _).symm⟩
  · intro c hc
    obtain ⟨p, hp, hsame⟩ := exists_same_mem_dropRepeated ((hmem _).mpr ⟨c, hc, rfl⟩)
    refine ⟨.ofSpelled p, List.mem_map_of_mem hp, ?_⟩
    rw [OsPath.same, OsPath.components, hspelled p hp]
    exact hsame
  · rw [batch, List.pairwise_map]
    refine (pairwise_lt_dropRepeated (Path.pairwise_le_mergeSort _)).imp_of_mem ?_
    intro p q hp hq hlt
    rwa [hspelled p hp, hspelled q hq]

end Listener

namespace Live

/-! ## Steps -/

/-- What the last finished cycle printed before its closing status. -/
def flushed (live : Live) : List Diagnostic :=
  match live.session.calls.getLast? with
  | some (.done summary) => summary.diagnostics.dropLast
  | _ => []

/-- What a watch keeps from its start. -/
structure Kept (p : Prepared) (live : Live) : Prop where
  filter : live.filter = .ofProject p.project
  watched : live.watched = watchedBy p
  codes : live.session.codes = .standard

section Steps

variable {p : Prepared} {live : Live}

/-- A cycle by what it tells the session. -/
theorem cycle_eq (live : Live) (trigger : Trigger) :
    live.cycle trigger =
      { live with
        tree := live.watched.treeAfter live.tree
        session := live.session.after (live.watched.events trigger live.tree) } := by
  rw [cycle, Watched.cycle_eq, foldl_tell_session]

/-- A cycle does not touch the listener. -/
theorem listener_cycle (live : Live) (trigger : Trigger) :
    (live.cycle trigger).toListener = live.toListener := by
  rw [cycle_eq]

/-- After a turn no change waits, and all else that is listened with is as before. -/
theorem listener_turn (live : Live) :
    live.turn.toListener = { live.toListener with pending := [] } := by
  rw [Live.turn]
  split
  · next hempty => rw [← List.isEmpty_iff.mp hempty]
  · rw [listener_cycle]

/-- A watch starts with a listener that was told nothing. -/
theorem listener_start {i : Invocation} (h : start i p = .ok live) :
    live.toListener = .ofFilter (.ofProject p.project) := by
  rw [start] at h
  cases hroot : openRoot p.tree p.project.root with
  | error e => rw [hroot] at h; cases h
  | ok root =>
      rw [hroot] at h
      cases h
      exact listener_cycle ..

theorem Kept.cycle (h : Kept p live) (trigger : Trigger) : Kept p (live.cycle trigger) := by
  rw [cycle_eq]
  refine ⟨h.filter, h.watched, ?_⟩
  rw [Session.codes_after]
  exact h.codes

/-- The first cycle comes after all that is kept was fixed. -/
theorem kept_start {i : Invocation} (h : start i p = .ok live) : Kept p live := by
  rw [start] at h
  cases hroot : openRoot p.tree p.project.root with
  | error e => rw [hroot] at h; cases h
  | ok root =>
      rw [hroot] at h
      cases h
      exact Kept.cycle ⟨rfl, rfl, rfl⟩ .initial

theorem Kept.turn (h : Kept p live) : Kept p live.turn := by
  have htaken : Kept p { live with pending := [] } := ⟨h.filter, h.watched, h.codes⟩
  rw [Live.turn]
  split
  · exact h
  · exact htaken.cycle _

/-- Each step preserves it. -/
theorem Kept.step (h : Kept p live) (happening : Happening) : Kept p (live.step happening) := by
  cases happening with
  | edited tree => exact ⟨h.filter, h.watched, h.codes⟩
  | noticed n => exact ⟨(live.filter_hear n).trans h.filter, h.watched, h.codes⟩
  | turned => exact h.turn

theorem Kept.after (h : Kept p live) (happenings : List Happening) :
    Kept p (live.after happenings) := by
  induction happenings generalizing live with
  | nil => exact h
  | cons happening happenings ih => exact ih (h.step happening)

/-- With a change that waits, a turn makes the session report one cycle on the files that there
are, after which none waits. -/
theorem Kept.turn_of_pending (h : Kept p live) (hpending : live.pending ≠ []) :
    live.turn.tree = (watchedBy p).treeAfter live.tree ∧
      live.turn.session.calls =
        live.session.calls ++ [.start, .done ((watchedBy p).summary live.tree)] ∧
      live.turn.flushed = (watchedBy p).records live.tree ∧ live.turn.pending = [] := by
  have hstarting : (watchedBy p).codes.done ≠ (watchedBy p).codes.starting := by
    show StatusCodes.standard.done ≠ StatusCodes.standard.starting
    decide
  have hchangedCode : (watchedBy p).codes.done ≠ (watchedBy p).codes.changed := by
    show StatusCodes.standard.done ≠ StatusCodes.standard.changed
    decide
  have hturn : live.turn =
      { live with
        pending := []
        tree := (watchedBy p).treeAfter live.tree
        session := live.session.after
          ((watchedBy p).events (.filesChanged live.batch) live.tree) } := by
    rw [Live.turn, if_neg (by simpa using hpending), cycle_eq]
    simp only [h.watched]
  have hcalls : live.turn.session.calls =
      live.session.calls ++ [.start, .done ((watchedBy p).summary live.tree)] := by
    rw [hturn]
    exact (Session.after_cycle h.codes hstarting hchangedCode _ live.tree).2.2.1
  refine ⟨by rw [hturn], hcalls, ?_, by rw [hturn]⟩
  rw [flushed, hcalls, List.getLast?_append]
  exact List.dropLast_concat

/-- Until the loop turns a change that waits goes on waiting, and nothing is reported. -/
theorem after_of_not_turned (live : Live) {happenings : List Happening}
    (h : .turned ∉ happenings) :
    live.pending <+: (live.after happenings).pending ∧
      (live.after happenings).session = live.session := by
  induction happenings generalizing live with
  | nil => exact ⟨List.prefix_refl _, rfl⟩
  | cons happening happenings ih =>
      obtain ⟨hne, hrest⟩ := not_or.mp (List.mem_cons.not.mp h)
      obtain ⟨hpending, hsession⟩ := ih (live.step happening) hrest
      cases happening with
      | edited tree => exact ⟨hpending, hsession⟩
      | noticed n => exact ⟨(live.pending_prefix_hear n).trans hpending, hsession⟩
      | turned => exact absurd rfl hne

/-- A notice that is heard is taken up by the next turn, whatever happens before it, in one cycle on
the files that there are then. -/
theorem Kept.after_of_hears (h : Kept p live) {n : Notice} (hheard : live.Hears n)
    {happenings : List Happening} (hnone : .turned ∉ happenings) :
    let waiting := live.after (.noticed n :: happenings)
    waiting.session = live.session ∧
      waiting.turn.tree = (watchedBy p).treeAfter waiting.tree ∧
      waiting.turn.session.calls =
        live.session.calls ++ [.start, .done ((watchedBy p).summary waiting.tree)] ∧
      waiting.turn.flushed = (watchedBy p).records waiting.tree := by
  intro waiting
  obtain ⟨c, -, hhear⟩ := Listener.hear_of_hears hheard
  obtain ⟨hpending, hsession⟩ := after_of_not_turned (live.step (.noticed n)) hnone
  have hwaits : waiting.pending ≠ [] := by
    have hmem : c ∈ (live.step (.noticed n)).pending := by
      show c ∈ (live.hear n).pending
      simp [hhear]
    exact List.ne_nil_of_mem (hpending.subset hmem)
  obtain ⟨htree, hcalls, hflushed, -⟩ := (h.after (.noticed n :: happenings)).turn_of_pending hwaits
  refine ⟨hsession, htree, ?_, hflushed⟩
  rw [hcalls]
  exact congrArg (fun session : Session => session.calls ++ _) hsession

/-- A change takes its notice, and leaves none waiting. -/
theorem listener_changed (live : Live) (tree : FileTree) (n : Notice) :
    (live.changed tree n).toListener = { live.hear n with pending := [] } :=
  listener_turn _

/-- A change of the files whose notice is heard makes the session report one cycle on them. -/
theorem Kept.changed_of_hears (h : Kept p live) {n : Notice} (hheard : live.Hears n)
    (tree : FileTree) :
    (live.changed tree n).tree = (watchedBy p).treeAfter tree ∧
      (live.changed tree n).session.calls =
        live.session.calls ++ [.start, .done ((watchedBy p).summary tree)] ∧
      (live.changed tree n).flushed = (watchedBy p).records tree := by
  have hedited : Kept p { live with tree } := ⟨h.filter, h.watched, h.codes⟩
  exact (hedited.after_of_hears hheard List.not_mem_nil).2

end Steps

end Live

/-! ## One watch and one fresh run -/

/-- A watch starts from a prepared run. -/
theorem exists_prepare_of_watch {i : Invocation} {live : Live} (h : i.watch = .ok live) :
    ∃ p, i.prepare = .ok p ∧ Live.start i p = .ok live := by
  rw [Invocation.watch] at h
  cases hprepared : i.prepare with
  | error f => rw [hprepared] at h; cases h
  | ok p => rw [hprepared] at h; exact ⟨p, rfl, h⟩

section Fresh

variable {p : Prepared} {live : Live} {n : Notice}

/-- A fresh run with the same project file and the same pass prints the diagnostics of the cycle and
leaves its files. -/
theorem Live.Kept.changed_of_prepare (h : Live.Kept p live) (hheard : live.Hears n)
    {fresh : Invocation} {q : Prepared} (hq : fresh.prepare = .ok q)
    (hproject : q.settings.project = p.settings.project) (hpass : q.pass = p.pass) :
    let after := live.changed fresh.tree n
    after.flushed = fresh.reported ∧
      fresh.runOnce =
        ⟨0, ((q.display.printAll fresh.reported).2.conclude fresh.reported.length).output,
          q.notices, after.tree⟩ := by
  intro after
  obtain ⟨htree, -, hflushed⟩ := h.changed_of_hears hheard fresh.tree
  obtain ⟨-, hqtree, hqload, -⟩ := Invocation.prepare_eq_ok hq
  have hload : Project.load q.tree (watchedBy p).configPath = .ok q.project := by
    show Project.load q.tree p.settings.project = .ok q.project
    rw [hqtree, ← hproject]
    exact hqload
  have hpasses : (watchedBy p).passes = [q.pass] := by rw [hpass]; rfl
  have hreported : fresh.reported = q.records := by rw [Invocation.reported, hq]
  have hsame : after.flushed = fresh.reported := by
    rw [hflushed, ← hqtree, Watched.records_of_prepared hload hpasses, hreported]
  have hfiles : after.tree = q.written.tree q.tree := by
    rw [htree, ← hqtree, Watched.treeAfter_of_prepared hload hpasses]
  refine ⟨hsame, ?_⟩
  rw [Invocation.runOnce, hq, hfiles, hreported]
  exact q.runOnce_eq

/-- A cycle without a project file that can be read has that as its one diagnostic, and writes
nothing. -/
theorem Live.Kept.changed_of_unreadable (h : Live.Kept p live) (hheard : live.Hears n)
    {tree : FileTree} {e : SetupError} (hload : Project.load tree p.settings.project = .error e) :
    (live.changed tree n).flushed =
        [(Diagnostic.error Code.configuration e.message).inFile p.settings.project] ∧
      (live.changed tree n).tree = tree := by
  obtain ⟨htree, -, hflushed⟩ := h.changed_of_hears hheard tree
  have hunread : Project.load tree (watchedBy p).configPath = .error e := hload
  refine ⟨?_, ?_⟩
  · rw [hflushed, Watched.records, hunread]
    rfl
  · rw [htree, Watched.treeAfter, hunread]

end Fresh

/-- Whatever happened before, a change that starts a cycle brings a watch to where a fresh run on the
changed files comes. The cycle is reported once, with its closing status at the end. If the fresh
run compiles the same project file with the same pass, it prints the diagnostics of the cycle and
leaves the same files. With settings that name the same project file and the same rules the fresh
run does compile with the same pass, provided that the project can be read and has its base
directory where it was. Without its project file the cycle reports that as its one diagnostic and
writes nothing, and the fresh run stops with nothing printed or written. -/
theorem watch_agrees_with_fresh_run {i : Invocation} {p : Prepared} {live : Live}
    (hprepared : i.prepare = .ok p) (hstarted : Live.start i p = .ok live)
    (happenings : List Happening) {n : Notice} (hheard : (live.after happenings).Hears n)
    (fresh : Invocation) :
    let before := live.after happenings
    let after := before.changed fresh.tree n
    (∃ summary : CycleReport,
      after.session.calls = before.session.calls ++ [.start, .done summary] ∧
      summary.diagnostics = after.flushed ++
        [.status Code.cycleEnd (closingText (after.flushed.countP Diagnostic.isError))]) ∧
    (∀ q, fresh.prepare = .ok q → q.settings.project = p.settings.project → q.pass = p.pass →
      after.flushed = fresh.reported ∧
      fresh.runOnce =
        ⟨0, ((q.display.printAll fresh.reported).2.conclude fresh.reported.length).output,
          q.notices, after.tree⟩) ∧
    (∀ s, fresh.settings? = some s → s.project = p.settings.project →
      s.redirection = p.settings.redirection →
      ∀ project, Project.load fresh.tree s.project = .ok project →
        s.redirection.baseFor project = s.redirection.baseFor p.project →
        ∃ q, fresh.prepare = .ok q ∧ q.settings.project = p.settings.project ∧
          q.pass = p.pass) ∧
    (∀ s, fresh.settings? = some s → s.project = p.settings.project →
      ∀ e, Project.load fresh.tree s.project = .error e →
        after.flushed = [(Diagnostic.error Code.configuration e.message).inFile s.project] ∧
        after.tree = fresh.tree ∧ ∃ notices, fresh.runOnce = ⟨1, "", notices, fresh.tree⟩) := by
  intro before after
  have hbefore : Live.Kept p before := (Live.kept_start hstarted).after happenings
  obtain ⟨-, hcalls, hflushed⟩ := hbefore.changed_of_hears hheard fresh.tree
  refine ⟨⟨(watchedBy p).summary fresh.tree, hcalls, ?_⟩, ?_, ?_, ?_⟩
  · rw [hflushed]
    rfl
  · intro q hq hproject hpass
    exact hbefore.changed_of_prepare hheard hq hproject hpass
  · intro s hs hproject hrules project hload hbase
    obtain ⟨-, -, -, hppass⟩ := Invocation.prepare_eq_ok hprepared
    have hpass : s.redirection.pass project = .ok p.pass := by
      rw [RedirectionSettings.pass_congr hbase, hrules]
      exact hppass
    obtain ⟨q, hq, rfl, -, hqpass⟩ := Invocation.exists_prepare hs hload hpass
    exact ⟨q, hq, hproject, hqpass⟩
  · intro s hs hproject e hload
    obtain ⟨hone, hsame⟩ := hbefore.changed_of_unreadable hheard (hproject ▸ hload)
    exact ⟨by rw [hone, hproject], hsame, Invocation.runOnce_of_unreadable hs hload⟩

/-- A run in the directory `/p`, which holds these files. -/
def runOn (files : List (Location × Entry)) : Invocation where
  tree := ⟨(["p"], .dir) :: files, ["p"]⟩
  environment := []
  arguments := []

/-- The project file of one input. -/
def projectFile : Location × Entry :=
  (["p", "tsconfig.json"], .file "\x7b\"files\": [\"a.ts\"]\x7d".toUTF8)

/-- That input with a text. -/
def inputFile (text : String) : Location × Entry := (["p", "a.ts"], .file text.toUTF8)

/-- A run on the project, without a settings file. -/
def plainRun : Invocation := runOn [projectFile, inputFile "import './b';\n"]

/-- The settings of the run. -/
def plainSettings : Settings := ⟨⟨"/p/tsconfig.json"⟩, "oxc", false, .none⟩

/-- The project of the run. -/
def plainProject : Project := ⟨⟨"/p/tsconfig.json"⟩, ⟨"/p"⟩, {}, [⟨"/p/a.ts"⟩], []⟩

theorem exists_watch_plainRun :
    ∃ p live, plainRun.prepare = .ok p ∧ Live.start plainRun p = .ok live ∧
      p.settings = plainSettings ∧ p.project = plainProject := by
  have hsettings : plainRun.settings? = some plainSettings := by decide +kernel
  have hproject : Project.load plainRun.tree plainSettings.project = .ok plainProject :=
    eq_ok_of_toOption (by decide +kernel)
  have hwatch : plainRun.watch.toOption.isSome = true := by decide +kernel
  obtain ⟨live, hlive⟩ := Option.isSome_iff_exists.mp hwatch
  obtain ⟨p, hprepared, hstarted⟩ := exists_prepare_of_watch (eq_ok_of_toOption hlive)
  obtain ⟨hread, -, hload, -⟩ := Invocation.prepare_eq_ok hprepared
  have hsame : p.settings = plainSettings := Option.some.inj (hread.symm.trans hsettings)
  rw [hsame] at hload
  exact ⟨p, live, hprepared, hstarted, hsame, Except.ok.inj (hload.symm.trans hproject)⟩

/-- The system tells that the project file is gone. -/
def projectFileGone : Notice := ⟨.remove, .ofText "/p/tsconfig.json", 0⟩

/-- The system tells that the input has changed. -/
def inputModified : Notice := ⟨.modify, .ofText "/p/a.ts", 0⟩

/-- After its project file was gone and came back, a watch is where a fresh run would be. -/
theorem watch_agrees_with_fresh_run_restored :
    let gone := runOn [inputFile "import './b';\n"]
    let edited := runOn [projectFile, inputFile "import './c';\n"]
    ∃ live, plainRun.watch = .ok live ∧
      let waiting := live.changed gone.tree projectFileGone
      let after := waiting.changed edited.tree inputModified
      waiting.flushed.length = 1 ∧ gone.runOnce.code = 1 ∧
      after.flushed = edited.reported ∧ edited.runOnce.code = 0 ∧
      edited.runOnce.tree = after.tree := by
  intro gone edited
  obtain ⟨p, live, hprepared, hstarted, hsettings, hproject⟩ := exists_watch_plainRun
  have hlistener : live.toListener = .ofFilter (.ofProject plainProject) := by
    rw [Live.listener_start hstarted, hproject]
  refine ⟨live, by rw [Invocation.watch, hprepared]; exact hstarted, ?_⟩
  intro waiting after
  -- without the project file
  have hgoneHeard : live.Hears projectFileGone := by
    rw [hlistener]
    exact ⟨by decide +kernel, rfl, rfl⟩
  obtain ⟨-, -, -, hgone⟩ := watch_agrees_with_fresh_run hprepared hstarted [] hgoneHeard gone
  obtain ⟨e, hunread⟩ : ∃ e, Project.load gone.tree plainSettings.project = .error e :=
    exists_error_of_toOption (by decide +kernel)
  obtain ⟨hone, -, notices, hstopped⟩ :=
    hgone plainSettings (by decide +kernel) (by rw [hsettings]) e hunread
  -- with both files again
  have hinputHeard : waiting.Hears inputModified := by
    rw [Live.listener_changed, hlistener]
    exact ⟨by decide +kernel, by decide +kernel, rfl⟩
  obtain ⟨-, hagrees, hcompiles, -⟩ := watch_agrees_with_fresh_run hprepared hstarted
    [.edited gone.tree, .noticed projectFileGone, .turned] hinputHeard edited
  have hload : Project.load edited.tree plainSettings.project = .ok plainProject :=
    eq_ok_of_toOption (by decide +kernel)
  obtain ⟨q, hq, hqproject, hqpass⟩ := hcompiles plainSettings (by decide +kernel)
    (by rw [hsettings]) (by rw [hsettings]) plainProject hload (by rw [hproject])
  obtain ⟨hflushed, hrun⟩ := hagrees q hq hqproject hqpass
  refine ⟨?_, by rw [hstopped], hflushed, by rw [hrun], by rw [hrun]; rfl⟩
  exact congrArg List.length hone

/-- Where a watch and a fresh run part. Without the project file the watch has a diagnostic and the
fresh run, which stops, has none. With a settings file that came later the fresh run redirects
specifiers and the watch does not. -/
theorem watch_apart_from_fresh_run :
    ∃ live ∈ plainRun.watch.toOption,
      (let fresh : Invocation := { plainRun with tree := live.tree.remove ["p", "tsconfig.json"] }
       live.filter.ignores projectFileGone.path = false ∧
       (live.changed fresh.tree projectFileGone).flushed.map Diagnostic.code =
         [Code.configuration] ∧
       fresh.reported = [] ∧ fresh.runOnce.code = 1 ∧ fresh.runOnce.stdout = "") ∧
      (let settingsCreated : Notice := ⟨.create, .ofText "/p/hush.toml", 0⟩
       let text := "[rewrite]\nproject = \"@lib\"\nbase_url = \".\"\n"
       let fresh : Invocation :=
         { plainRun with tree := live.tree.put ["p", "hush.toml"] (.file text.toUTF8) }
       live.filter.ignores settingsCreated.path = false ∧
       ((live.changed fresh.tree settingsCreated).tree.readText ⟨"/p/a.js"⟩).toOption =
         some "import \"./b\";\n" ∧
       (fresh.runOnce.tree.readText ⟨"/p/a.js"⟩).toOption = some "import \"@lib/b\";\n") := by
  decide +kernel

end QuietEmit.Watch
