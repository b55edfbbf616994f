/-
  QuietEmit.Proofs.Specifier.Precedence

  Which rule decides about a specifier. The table gives the word to the first of its
  entries that matches (`AliasTable.answer_eq_some_iff`), the hook to what it answers
  unless that is empty (`Redirection.hookAnswer_eq_some_iff`). `Redirection.Decides`
  says for each rule when it has its turn and what comes out, without the order in
  which they are asked; exactly one outcome is decided for every specifier, and it is
  that of the redirection (`Redirection.decides_iff`).

  From this follows what a rule cannot do to the ones before it: the base directory
  and the project text touch specifiers that start with a dot only, and nothing
  touches a specifier that an entry of the table matches
  (`redirect_by_first_rule`).
-/
import Mathlib.Data.List.Basic
import QuietEmit.Specifier.Target

namespace QuietEmit

/-! ## The table -/

namespace Alias

/-- The pattern of an entry matches somewhere in a specifier. -/
def Matches (rule : Alias) (specifier : String) : Prop :=
  rule.regex.isMatch specifier.toList = true

instance (rule : Alias) (specifier : String) : Decidable (rule.Matches specifier) :=
  inferInstanceAs (Decidable (_ = true))

/-- A specifier with every match of the entry replaced. -/
def replaced (rule : Alias) (specifier : String) : String :=
  rule.regex.replaceAll rule.replacement specifier

variable {rule : Alias} {specifier text : String}

theorem answer_eq_some_iff :
    rule.answer specifier = some text ↔ rule.Matches specifier ∧ rule.replaced specifier = text := by
  rw [answer, Matches, replaced]
  split <;> simp_all

theorem answer_eq_none_iff : rule.answer specifier = none ↔ ¬ rule.Matches specifier := by
  rw [answer, Matches]
  split <;> simp_all

end Alias

namespace AliasTable

/-- The entry with the smallest index of those that match a specifier. -/
structure IsFirst (t : AliasTable) (specifier : String) (index : Nat) (rule : Alias) : Prop where
  get : t.rules[index]? = some rule
  hit : rule.Matches specifier
  missed : ∀ earlier < index, ∀ other, t.rules[earlier]? = some other → ¬ other.Matches specifier

variable {t : AliasTable} {specifier text : String}

/-- The table answers with its first entry that matches. -/
theorem answer_eq_some_iff :
    t.answer specifier = some text ↔
      ∃ index rule, t.IsFirst specifier index rule ∧ rule.replaced specifier = text := by
  rw [answer, List.findSome?_eq_some_iff]
  constructor
  · rintro ⟨before, rule, after, hrules, hanswer, hbefore⟩
    obtain ⟨hmatch, htext⟩ := Alias.answer_eq_some_iff.mp hanswer
    refine ⟨before.length, rule, ⟨by simp [hrules], hmatch, ?_⟩, htext⟩
    intro earlier hearlier other hother
    rw [hrules, List.getElem?_append_left hearlier] at hother
    exact Alias.answer_eq_none_iff.mp (hbefore other (List.mem_of_getElem? hother))
  · rintro ⟨index, rule, ⟨hget, hmatch, hfirst⟩, htext⟩
    obtain ⟨hindex, rfl⟩ := List.getElem?_eq_some_iff.mp hget
    refine ⟨t.rules.take index, t.rules[index], t.rules.drop (index + 1), ?_,
      Alias.answer_eq_some_iff.mpr ⟨hmatch, htext⟩, ?_⟩
    · rw [← List.drop_eq_getElem_cons hindex, List.take_append_drop]
    · intro other hother
      obtain ⟨earlier, hearlier, rfl⟩ := List.mem_take_iff_getElem.mp hother
      exact Alias.answer_eq_none_iff.mpr
        (hfirst earlier (by omega) _ (List.getElem?_eq_getElem (by omega)))

/-- The table has no answer only where no entry matches. -/
theorem answer_eq_none_iff :
    t.answer specifier = none ↔ ∀ rule ∈ t.rules, ¬ rule.Matches specifier := by
  rw [answer, List.findSome?_eq_none_iff]
  exact forall₂_congr fun _ _ => Alias.answer_eq_none_iff

end AliasTable

namespace Redirection

/-! ## The hook -/

/-- The hook gives a text for a specifier in a file; the empty text does not count. -/
def Answers (c : Redirection) (specifier : String) (file : OsPath) (text : String) : Prop :=
  ∃ hook, c.hook = some hook ∧ hook specifier file = some text ∧ text ≠ ""

variable {c : Redirection} {specifier text : String} {file : OsPath}

theorem hookAnswer_eq_some_iff :
    c.hookAnswer specifier file = some text ↔ c.Answers specifier file text := by
  simp [hookAnswer, Answers, Option.bind_eq_some_iff, Option.filter_eq_some_iff]

theorem hookAnswer_eq_none_iff :
    c.hookAnswer specifier file = none ↔ ∀ text, ¬ c.Answers specifier file text := by
  simp only [← hookAnswer_eq_some_iff, Option.eq_none_iff_forall_ne_some]

/-! ## Turns -/

/-- Neither the table nor the hook has anything to say about a specifier in a file. -/
structure FallsThrough (c : Redirection) (specifier : String) (file : OsPath) : Prop where
  unmatched : ∀ rule ∈ c.aliases.rules, ¬ rule.Matches specifier
  unanswered : ∀ text, ¬ c.Answers specifier file text

/-- A specifier would be rebased from `base` onto `project`. -/
structure RebasesOnto (c : Redirection) (specifier : String) (base : OsPath) (project : String) :
    Prop where
  baseUrl : c.baseUrl = some base
  project : c.project = some project
  dot : specifier.toList.head? = some '.'

/-- What the rules decide about a specifier in a file, each in its turn. -/
inductive Decides (c : Redirection) (specifier : String) (file : OsPath) :
    Except OutsideBase Redirected → Prop where
  | table {index : Nat} {rule : Alias} (first : c.aliases.IsFirst specifier index rule) :
      Decides c specifier file (.ok (.changed (rule.replaced specifier)))
  | hook {text : String} (unmatched : ∀ rule ∈ c.aliases.rules, ¬ rule.Matches specifier)
      (answer : c.Answers specifier file text) : Decides c specifier file (.ok (.changed text))
  | rebase {base : OsPath} {project : String} (free : c.FallsThrough specifier file)
      (onto : c.RebasesOnto specifier base project) :
      Decides c specifier file ((QuietEmit.rebase specifier file base project).map .changed)
  | keep (free : c.FallsThrough specifier file)
      (nowhere : ∀ base project, ¬ c.RebasesOnto specifier base project) :
      Decides c specifier file (.ok .unchanged)

theorem fallsThrough_iff :
    c.FallsThrough specifier file ↔
      c.aliases.answer specifier = none ∧ c.hookAnswer specifier file = none := by
  rw [AliasTable.answer_eq_none_iff, hookAnswer_eq_none_iff]
  exact ⟨fun h => ⟨h.1, h.2⟩, fun h => ⟨h.1, h.2⟩⟩

/-- A specifier that gets past the table and the hook is rebased if it can be. -/
theorem redirect_of_rebasesOnto {base : OsPath} {project : String}
    (h : c.FallsThrough specifier file) (honto : c.RebasesOnto specifier base project) :
    c.redirect specifier file = (QuietEmit.rebase specifier file base project).map .changed := by
  obtain ⟨haliases, hhook⟩ := fallsThrough_iff.mp h
  simp [redirect, haliases, hhook, honto.baseUrl, honto.project, honto.dot]

/-- A specifier that no rule has a turn for stays. -/
theorem redirect_of_not_rebasesOnto (h : c.FallsThrough specifier file)
    (hnowhere : ∀ base project, ¬ c.RebasesOnto specifier base project) :
    c.redirect specifier file = .ok .unchanged := by
  obtain ⟨haliases, hhook⟩ := fallsThrough_iff.mp h
  rw [redirect, haliases, hhook]
  dsimp only
  split
  · next base project hbase hproject =>
      rw [if_neg]
      simpa using fun hdot => hnowhere base project ⟨hbase, hproject, hdot⟩
  · rfl

/-- The rules decide about every specifier. -/
theorem decides_redirect (c : Redirection) (specifier : String) (file : OsPath) :
    c.Decides specifier file (c.redirect specifier file) := by
  cases haliases : c.aliases.answer specifier with
  | some text =>
      obtain ⟨index, rule, hfirst, rfl⟩ := AliasTable.answer_eq_some_iff.mp haliases
      simpa [redirect, haliases] using Decides.table hfirst
  | none =>
      have hunmatched := AliasTable.answer_eq_none_iff.mp haliases
      cases hhook : c.hookAnswer specifier file with
      | some text =>
          simpa [redirect, haliases, hhook] using
            Decides.hook hunmatched (hookAnswer_eq_some_iff.mp hhook)
      | none =>
          have hfree : c.FallsThrough specifier file := fallsThrough_iff.mpr ⟨haliases, hhook⟩
          by_cases honto : ∃ base project, c.RebasesOnto specifier base project
          · obtain ⟨base, project, honto⟩ := honto
            rw [redirect_of_rebasesOnto hfree honto]
            exact .rebase hfree honto
          · simp only [not_exists] at honto
            rw [redirect_of_not_rebasesOnto hfree honto]
            exact .keep hfree honto

/-- No two rules have a turn for the same specifier. -/
theorem Decides.eq_redirect {outcome : Except OutsideBase Redirected}
    (h : c.Decides specifier file outcome) : c.redirect specifier file = outcome := by
  cases h with
  | table first =>
      have haliases := AliasTable.answer_eq_some_iff.mpr ⟨_, _, first, rfl⟩
      simp [redirect, haliases]
  | hook unmatched answer =>
      have haliases := AliasTable.answer_eq_none_iff.mpr unmatched
      have hhook := hookAnswer_eq_some_iff.mpr answer
      simp [redirect, haliases, hhook]
  | rebase free onto => exact redirect_of_rebasesOnto free onto
  | keep free nowhere => exact redirect_of_not_rebasesOnto free nowhere

theorem decides_iff {outcome : Except OutsideBase Redirected} :
    c.Decides specifier file outcome ↔ c.redirect specifier file = outcome :=
  ⟨Decides.eq_redirect, fun h => h ▸ decides_redirect c specifier file⟩

/-! ## What later rules cannot touch -/

/-- Where an entry of the table matches, nothing but the table counts. -/
theorem redirect_of_matches (h : ∃ rule ∈ c.aliases.rules, rule.Matches specifier)
    (hook : Option RedirectionHook) (base : Option OsPath) (project : Option String)
    (file' : OsPath) :
    redirect { c with hook, baseUrl := base, project } specifier file' =
      c.redirect specifier file := by
  cases hanswer : c.aliases.answer specifier with
  | none =>
      obtain ⟨rule, hrule, hmatch⟩ := h
      exact absurd hmatch (AliasTable.answer_eq_none_iff.mp hanswer rule hrule)
  | some text => simp [redirect, hanswer]

/-- For a specifier without a leading dot only the table and the hook count. -/
theorem redirect_of_head_ne (h : specifier.toList.head? ≠ some '.') (base : Option OsPath)
    (project : Option String) :
    redirect { c with baseUrl := base, project } specifier file = c.redirect specifier file := by
  have hnowhere : ∀ (d : Redirection) (base : OsPath) (project : String),
      ¬ d.RebasesOnto specifier base project := fun _ _ _ honto => h honto.dot
  have hhook : hookAnswer { c with baseUrl := base, project } specifier file =
      c.hookAnswer specifier file := rfl
  cases ha : c.aliases.answer specifier with
  | some text => simp [redirect, ha]
  | none =>
      cases hh : c.hookAnswer specifier file with
      | some text => simp [redirect, ha, hhook, hh]
      | none =>
          rw [redirect_of_not_rebasesOnto (fallsThrough_iff.mpr ⟨ha, hh⟩) (hnowhere c)]
          exact redirect_of_not_rebasesOnto (fallsThrough_iff.mpr ⟨ha, hhook.trans hh⟩) (hnowhere _)

/-- Only rebasing can fail. -/
theorem redirect_eq_error_iff {e : OutsideBase} :
    c.redirect specifier file = .error e ↔
      c.FallsThrough specifier file ∧ ∃ base project, c.RebasesOnto specifier base project ∧
        QuietEmit.rebase specifier file base project = .error e := by
  constructor
  · intro herror
    have hdecides := decides_iff.mpr herror
    generalize hrebased : Except.error e = outcome at hdecides
    cases hdecides with
    | table | hook | keep => cases hrebased
    | @rebase base project free onto =>
        refine ⟨free, base, project, onto, ?_⟩
        cases hcase : QuietEmit.rebase specifier file base project with
        | ok text => simp [hcase, Except.map] at hrebased
        | error e' => simpa [hcase, Except.map] using hrebased.symm
  · rintro ⟨hfree, base, project, honto, herror⟩
    rw [redirect_of_rebasesOnto hfree honto, herror]
    rfl

/-- A specifier is said to be unchanged only where no rule has a turn. -/
theorem redirect_eq_unchanged_iff :
    c.redirect specifier file = .ok .unchanged ↔
      c.FallsThrough specifier file ∧ ∀ base project, ¬ c.RebasesOnto specifier base project := by
  constructor
  · intro hkept
    have hdecides := decides_iff.mpr hkept
    generalize houtcome : Except.ok Redirected.unchanged = outcome at hdecides
    cases hdecides with
    | table | hook => cases houtcome
    | @rebase base project free onto =>
        cases hcase : QuietEmit.rebase specifier file base project <;>
          simp [hcase, Except.map] at houtcome
    | keep free nowhere => exact ⟨free, nowhere⟩
  · exact fun h => redirect_of_not_rebasesOnto h.1 h.2

end Redirection

/-- One rule decides about every specifier, and which one can be told without asking the others: the
first entry of the table that matches, else the hook, else rebasing, else none. Where an entry
matches, hook, base directory, project text and file have no say. Base directory and project text
have no say about a specifier without a leading dot, for which there is always a result. It is
rebasing alone that can fail, and only a specifier that no rule has a turn for counts as unchanged,
whatever text a rule gives. -/
theorem redirect_by_first_rule (c : Redirection) (specifier : String) (file : OsPath) :
    (∀ outcome, c.redirect specifier file = outcome ↔ c.Decides specifier file outcome) ∧
    ((∃ rule ∈ c.aliases.rules, rule.Matches specifier) → ∀ hook base project file',
      Redirection.redirect { c with hook, baseUrl := base, project } specifier file' =
        c.redirect specifier file) ∧
    (specifier.toList.head? ≠ some '.' →
      (∀ base project, Redirection.redirect { c with baseUrl := base, project } specifier file =
        c.redirect specifier file) ∧
      ∀ e, c.redirect specifier file ≠ .error e) ∧
    (∀ e, c.redirect specifier file = .error e ↔
      c.FallsThrough specifier file ∧ ∃ base project, c.RebasesOnto specifier base project ∧
        rebase specifier file base project = .error e) ∧
    (c.redirect specifier file = .ok .unchanged ↔
      c.FallsThrough specifier file ∧ ∀ base project, ¬ c.RebasesOnto specifier base project) := by
  refine ⟨fun outcome => Redirection.decides_iff.symm, ?_, ?_,
    fun e => Redirection.redirect_eq_error_iff, Redirection.redirect_eq_unchanged_iff⟩
  · intro hmatch hook base project file'
    exact Redirection.redirect_of_matches hmatch hook base project file'
  · intro hdot
    refine ⟨Redirection.redirect_of_head_ne hdot, fun e herror => ?_⟩
    obtain ⟨-, base, project, honto, -⟩ := Redirection.redirect_eq_error_iff.mp herror
    exact hdot honto.dot

/-- An entry for a single character. -/
def Alias.ofChar (c : Char) (replacement : String) : Alias :=
  ⟨String.singleton c, replacement,
    ⟨#[.accept, .save 1 0, .char (.ofList [c]) 1, .save 0 2], 3, []⟩⟩

/-- Every kind of rule at once: two entries, a hook that knows one name and has an empty answer for
the others, and a base directory. -/
def everyRule : Redirection where
  baseUrl := some (.ofText "/repo/src")
  project := some "@lib"
  hook := some fun specifier _ => some (if specifier = "react" then "preact" else "")
  aliases := ⟨[.ofChar '@' "lib", .ofChar '~' "~"]⟩

/-- The second entry gives the text it was given, and that counts as a change. Whatever hook and base
directory come with it, the outcome is the same. The hook and the base directory have their turn
where no entry matches, and what is left over is unchanged. -/
theorem redirect_by_first_rule_every :
    let file : OsPath := .ofText "/repo/src/a.ts"
    everyRule.redirect "./~/~" file = .ok (.changed "./~/~") ∧
    Redirection.redirect { everyRule with hook := none, baseUrl := some (.ofText "/other") } "./~/~" file =
      .ok (.changed "./~/~") ∧
    everyRule.redirect "react" file = .ok (.changed "preact") ∧
    everyRule.redirect "../../x" file =
      .error ⟨"../../x", (resolveTarget "../../x" file).lossy, .ofText "/repo/src"⟩ ∧
    everyRule.redirect "lodash" file = .ok .unchanged ∧
    Redirection.redirect { everyRule with baseUrl := none, project := none } "lodash" file =
      .ok .unchanged := by
  intro file
  have hsecond : everyRule.aliases.IsFirst "./~/~" 1 (.ofChar '~' "~") := by
    refine ⟨rfl, by decide +kernel, fun earlier hearlier other hother => ?_⟩
    obtain rfl : earlier = 0 := by omega
    obtain rfl := Option.some.inj hother
    decide +kernel
  have hreplaced : (Alias.ofChar '~' "~").replaced "./~/~" = "./~/~" := by decide +kernel
  have hfree : ∀ specifier ∈ ["../../x", "lodash"], everyRule.FallsThrough specifier file := by
    intro specifier hspecifier
    rw [Redirection.fallsThrough_iff]
    revert specifier
    decide +kernel
  obtain ⟨htable, hlater, -⟩ := redirect_by_first_rule everyRule "./~/~" file
  have htilde : everyRule.redirect "./~/~" file = .ok (.changed "./~/~") := by
    have hdecided := (htable _).mpr (.table hsecond)
    rwa [hreplaced] at hdecided
  obtain ⟨hhook, -⟩ := redirect_by_first_rule everyRule "react" file
  obtain ⟨-, -, -, herror, -⟩ := redirect_by_first_rule everyRule "../../x" file
  obtain ⟨-, -, hbare, -, hkept⟩ := redirect_by_first_rule everyRule "lodash" file
  have hlodash : everyRule.redirect "lodash" file = .ok .unchanged :=
    hkept.mpr ⟨hfree _ (by simp), fun _ _ honto => absurd honto.dot (by decide)⟩
  refine ⟨htilde, ?_, ?_, ?_, hlodash, ?_⟩
  · rw [← htilde]
    exact hlater ⟨_, by simp [everyRule], hsecond.hit⟩ none (some (.ofText "/other")) (some "@lib") file
  · exact (hhook _).mpr (.hook (by decide +kernel) ⟨_, rfl, rfl, by decide⟩)
  · refine (herror _).mpr ⟨hfree _ (by simp), _, _, ⟨rfl, rfl, by decide⟩, ?_⟩
    have hnone : Text.splitOnce? (OsPath.ofText "/repo/src").lossy.text.toList
        (resolveTarget "../../x" file).lossy.text.toList = none := by decide +kernel
    unfold rebase
    dsimp only
    rw [hnone]
  · rw [← hlodash]
    exact (hbare (by decide)).1 none none

end QuietEmit
