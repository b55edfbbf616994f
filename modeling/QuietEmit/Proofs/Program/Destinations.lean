/-
  QuietEmit.Proofs.Program.Destinations

  Where outputs go. An input is laid out at a place (`Project.layout`) and its
  outputs get extensions there, by the kind of the input. So the outputs of two
  inputs fall on each other exactly when the places agree up to their extensions
  and the kinds agree (`Project.Collide`); where no two inputs collide, no file is
  written twice.
-/
import QuietEmit.Proofs.Path.Extension
import QuietEmit.Proofs.Path.Join
import QuietEmit.Proofs.Program.Accounts

namespace QuietEmit

/-! ## Extensions of outputs -/

/-- The extensions that code gets. -/
def codeExtensions : List String := ["js", "mjs", "cjs"]

/-- The extensions that declarations get. -/
def declarationExtensions : List String := ["d.ts", "d.mts", "d.cts"]

/-- The extensions that outputs get. -/
def outputExtensions : List String := codeExtensions ++ declarationExtensions

theorem outputExtensions_wellFormed :
    ∀ e ∈ outputExtensions, e ≠ "" ∧ '/' ∉ e.toList := by decide

/-- Extensions of outputs differ after their last dots. -/
theorem finalPart_injective_outputExtensions :
    ∀ e ∈ outputExtensions, ∀ f ∈ outputExtensions,
      Path.finalPart e = Path.finalPart f → e = f := by decide +kernel

theorem codeExtensions_disjoint : ∀ e ∈ codeExtensions, e ∉ declarationExtensions := by decide

theorem emittedExtensions_cases (source : Path) :
    emittedExtensions source = ("mjs", "d.mts") ∨ emittedExtensions source = ("cjs", "d.cts") ∨
      emittedExtensions source = ("js", "d.ts") := by
  rw [emittedExtensions]
  split <;> simp

theorem emittedExtensions_fst_mem (source : Path) :
    (emittedExtensions source).1 ∈ codeExtensions := by
  rcases emittedExtensions_cases source with h | h | h <;> simp [h, codeExtensions]

theorem emittedExtensions_snd_mem (source : Path) :
    (emittedExtensions source).2 ∈ declarationExtensions := by
  rcases emittedExtensions_cases source with h | h | h <;> simp [h, declarationExtensions]

/-- Each of the two extensions tells the kind of an input. -/
theorem emittedExtensions_eq_iff (a b : Path) :
    (emittedExtensions a = emittedExtensions b ↔
      (emittedExtensions a).1 = (emittedExtensions b).1) ∧
    (emittedExtensions a = emittedExtensions b ↔
      (emittedExtensions a).2 = (emittedExtensions b).2) := by
  rcases emittedExtensions_cases a with ha | ha | ha <;>
    rcases emittedExtensions_cases b with hb | hb | hb <;> simp [ha, hb]

/-! ## Places of inputs -/

namespace Project

variable (project : Project)

/-- The place of an input in the output directory, before its extension is changed. -/
def layout (source : Path) : Path :=
  match project.options.outDir with
  | some outDir =>
    outDir.join (((source.below? project.layoutRoot).orElse fun _ =>
      source.fileName.map Path.mk).getD source)
  | none => source

theorem destination_eq (source : Path) (extension : String) :
    project.destination source extension = (project.layout source).withExtension extension := rfl

/-- Outputs fall on each other where their places agree up to extensions and the new extensions
agree, if they show. -/
theorem same_destination_iff (a b : Path) {e f : String} (he : e ∈ outputExtensions)
    (hf : f ∈ outputExtensions) :
    (project.destination a e).same (project.destination b f) = true ↔
      (project.layout a).stemmed = (project.layout b).stemmed ∧
        ((project.layout a).fileName.isSome = true → e = f) := by
  obtain ⟨hne, hslash⟩ := outputExtensions_wellFormed e he
  obtain ⟨hnf, hfslash⟩ := outputExtensions_wellFormed f hf
  rw [destination_eq, destination_eq]
  exact Path.same_withExtension_iff hne hnf hslash hfslash
    (finalPart_injective_outputExtensions e he f hf)

/-- Two inputs collide when they are laid out at one place up to their extensions and are of one
kind, if that shows. -/
def Collide (a b : Path) : Prop :=
  (project.layout a).stemmed = (project.layout b).stemmed ∧
    ((project.layout a).fileName.isSome = true → emittedExtensions a = emittedExtensions b)

instance (a b : Path) : Decidable (project.Collide a b) := inferInstanceAs (Decidable (_ ∧ _))

/-- The code of two inputs goes to one path exactly when they collide. -/
theorem same_codePath_iff (a b : Path) :
    (project.codePath a).same (project.codePath b) = true ↔ project.Collide a b := by
  rw [codePath, codePath, project.same_destination_iff a b
    (List.mem_append_left _ (emittedExtensions_fst_mem a))
    (List.mem_append_left _ (emittedExtensions_fst_mem b)), Collide,
    (emittedExtensions_eq_iff a b).1]

/-- The declarations of two inputs go to one path exactly when they collide. -/
theorem same_declarationPath_iff (a b : Path) :
    (project.declarationPath a).same (project.declarationPath b) = true ↔
      project.Collide a b := by
  rw [declarationPath, declarationPath, project.same_destination_iff a b
    (List.mem_append_right _ (emittedExtensions_snd_mem a))
    (List.mem_append_right _ (emittedExtensions_snd_mem b)), Collide,
    (emittedExtensions_eq_iff a b).2]

/-- Code and declarations never go to one path that has a file name. -/
theorem fileName_eq_none_of_same_declarationPath {a b : Path}
    (h : (project.codePath a).same (project.declarationPath b) = true) :
    (project.layout a).fileName = none := by
  have hcode := emittedExtensions_fst_mem a
  have hdeclarations := emittedExtensions_snd_mem b
  rw [codePath, declarationPath, project.same_destination_iff a b
    (List.mem_append_left _ hcode) (List.mem_append_right _ hdeclarations)] at h
  cases hname : (project.layout a).fileName with
  | none => rfl
  | some name =>
      have heq := h.2 (by simp [hname])
      rw [heq] at hcode
      exact absurd hdeclarations (codeExtensions_disjoint _ hcode)

/-- Without a file name a place is where all its outputs go. -/
theorem destination_of_fileName_eq_none {source : Path} (extension : String)
    (h : (project.layout source).fileName = none) :
    project.destination source extension = project.layout source := by
  rw [destination_eq, Path.withExtension_of_fileName_eq_none h]

end Project

/-! ## Places below the source root -/

theorem length_modifyLast {α : Type} (f : α → α) (l : List α) :
    (l.modifyLast f).length = l.length := by
  rcases List.eq_nil_or_concat l with rfl | ⟨above, last, rfl⟩
  · rfl
  · simp [List.modifyLast_concat]

/-- Changing the last of two lists gives the same after a common beginning exactly when it does
without it. -/
theorem modifyLast_append_eq_iff {α : Type} (f : α → α) (above a b : List α) :
    (above ++ a).modifyLast f = (above ++ b).modifyLast f ↔ a.modifyLast f = b.modifyLast f := by
  have hlength : (above ++ a).modifyLast f = (above ++ b).modifyLast f ∨
      a.modifyLast f = b.modifyLast f → a.length = b.length := by
    rintro (h | h) <;> have := congrArg List.length h <;>
      simpa [length_modifyLast] using this
  by_cases ha : a = []
  · subst ha
    constructor <;> intro h
    · rw [List.length_eq_zero_iff.mp (hlength (.inl h)).symm]
    · rw [List.length_eq_zero_iff.mp (hlength (.inr h)).symm]
  · by_cases hb : b = []
    · subst hb
      constructor <;> intro h
      · exact absurd (List.length_eq_zero_iff.mp (hlength (.inl h))) ha
      · exact absurd (List.length_eq_zero_iff.mp (hlength (.inr h))) ha
    · rw [List.modifyLast_append_of_right_ne_nil _ _ _ ha,
        List.modifyLast_append_of_right_ne_nil _ _ _ hb, List.append_cancel_left_eq]

namespace Project

variable (project : Project)

/-- Where inputs keep their places: there is no output directory, or the input is below the source
root. -/
def Keeps (source : Path) : Prop :=
  project.options.outDir = none ∨
    project.layoutRoot.components ≠ [] ∧ project.layoutRoot.components <+: source.components

/-- With an output directory, an input that keeps its place is laid out there at its components below
the source root. -/
theorem components_layout {source outDir : Path} (hkeeps : project.Keeps source)
    (hdir : project.options.outDir = some outDir) :
    ∃ below, source.components = project.layoutRoot.components ++ below ∧
      (project.layout source).components = outDir.components ++ below := by
  obtain ⟨hroot, rest, hrest⟩ := hkeeps.resolve_left (by simp [hdir])
  obtain ⟨r, hr⟩ := Option.isSome_iff_exists.mp (Path.isSome_below? hrest.symm hroot)
  obtain ⟨hrel, hhere, hcomponents⟩ := Path.components_of_below? hr hroot
  have hlayout : project.layout source = outDir.join r := by simp [layout, hdir, hr]
  exact ⟨r.components, hcomponents, by rw [hlayout, Path.components_join outDir hrel hhere]⟩

/-- Inputs that keep their places are laid out at one place up to extensions exactly when they are
one path up to extensions. -/
theorem stemmed_layout_eq_iff {a b : Path} (ha : project.Keeps a) (hb : project.Keeps b) :
    (project.layout a).stemmed = (project.layout b).stemmed ↔ a.stemmed = b.stemmed := by
  cases hdir : project.options.outDir with
  | none => simp [layout, hdir]
  | some outDir =>
      obtain ⟨below, hbelow, hlayout⟩ := project.components_layout ha hdir
      obtain ⟨below', hbelow', hlayout'⟩ := project.components_layout hb hdir
      rw [Path.stemmed, Path.stemmed, Path.stemmed, Path.stemmed, hbelow, hbelow', hlayout,
        hlayout', modifyLast_append_eq_iff, modifyLast_append_eq_iff]

end Project

/-! ## Files written once -/

variable {σ : Type} [FileStore σ]

namespace Project

variable (project : Project) (passes : List Pass) (reads : σ)

/-- What an input asks for is its code or its declaration. -/
theorem path_of_mem_outputsAt {source : Path} {o : Output}
    (h : o ∈ project.outputsAt passes reads source) :
    (o.path = project.codePath source ∨ o.path = project.declarationPath source) ∧
      isDeclarations source = false ∧ (project.codePath source).same source = false := by
  rw [outputsAt] at h
  split at h
  · next text _ =>
      rw [outputs] at h
      split at h
      · simp at h
      · next hcode =>
          rw [Bool.not_eq_true, Bool.or_eq_false_iff] at hcode
          refine ⟨?_, hcode⟩
          rw [codeAndDeclaration, List.mem_cons, List.mem_map] at h
          rcases h with rfl | ⟨declaration, -, rfl⟩
          · exact .inl rfl
          · exact .inr rfl
  · simp at h

/-- Outputs of inputs that do not collide fall on each other only where they have no file name. -/
theorem fileName_eq_none_of_same {a b p q : Path} (hcollide : ¬ project.Collide a b)
    (hp : p = project.codePath a ∨ p = project.declarationPath a)
    (hq : q = project.codePath b ∨ q = project.declarationPath b) (hsame : p.same q = true) :
    p.fileName = none := by
  rcases hp with rfl | rfl <;> rcases hq with rfl | rfl
  -- outputs of one kind do not fall on each other, for the inputs do not collide
  · exact absurd ((project.same_codePath_iff a b).mp hsame) hcollide
  -- outputs of two kinds do where no extension shows
  · have hname := project.fileName_eq_none_of_same_declarationPath hsame
    rw [codePath, project.destination_of_fileName_eq_none _ hname, hname]
  · have hsame' : (project.codePath b).same (project.declarationPath a) = true := by
      rw [Path.same_iff] at hsame ⊢
      exact hsame.symm
    have hname := project.fileName_eq_none_of_same_declarationPath hsame'
    have hcode : (project.codePath b).fileName = none := by
      rw [codePath, project.destination_of_fileName_eq_none _ hname, hname]
    rw [Path.fileName_of_same hsame, hcode]
  · exact absurd ((project.same_declarationPath_iff a b).mp hsame) hcollide

/-- Where no two inputs collide, what they ask for falls on each other only where it has no file
name. -/
theorem pairwise_path_outputsAt
    (h : (project.fileNames.filter (!isDeclarations ·)).Pairwise fun a b => ¬ project.Collide a b) :
    ((project.fileNames.flatMap (project.outputsAt passes reads)).map Output.path).Pairwise
      fun p q => p.same q = true → p.fileName = none := by
  rw [List.pairwise_map, List.pairwise_flatMap]
  constructor
  · -- the code and the declaration of one input
    intro source _
    rw [outputsAt]
    split
    · rw [outputs]
      split
      · exact .nil
      · rw [codeAndDeclaration, List.pairwise_cons]
        constructor
        · intro o ho hsame
          obtain ⟨declaration, -, rfl⟩ := List.mem_map.mp ho
          have hname := project.fileName_eq_none_of_same_declarationPath hsame
          rw [codePath, project.destination_of_fileName_eq_none _ hname, hname]
        · rw [List.pairwise_map]
          cases (project.emitted passes _).declaration with
          | none => exact .nil
          | some declaration => exact List.pairwise_singleton _ _
    · exact .nil
  · rw [List.pairwise_filter] at h
    refine h.imp ?_
    intro a b hab o ho o' ho' hsame
    obtain ⟨hpath, hcode, -⟩ := project.path_of_mem_outputsAt passes reads ho
    obtain ⟨hpath', hcode', -⟩ := project.path_of_mem_outputsAt passes reads ho'
    exact project.fileName_eq_none_of_same (hab (by simp [hcode]) (by simp [hcode'])) hpath hpath'
      hsame

end Project

/-- The files that a program writes are some of those that its inputs ask for, in their order. -/
theorem files_sublist (project : Project) (passes : List Pass) (reads store : σ) :
    ((Program.ofProject reads project).writeOutputs store passes).files.Sublist
      ((project.fileNames.flatMap (project.outputsAt passes reads)).map Output.path) := by
  cases hblocked : (Program.ofProject reads project).isBlocked with
  | true =>
      rw [Program.writeOutputs_of_isBlocked hblocked]
      exact List.nil_sublist _
  | false =>
      rw [Program.writeOutputs_ofProject hblocked]
      exact written_sublist store _

/-- Outputs of one kind fall on each other exactly where inputs collide. Of inputs that keep their
places, only those do that are one path up to their extensions. Where no two inputs collide, no
file is written twice, paths without a file name apart. -/
theorem outputs_apart_unless_collide (project : Project) (passes : List Pass) (reads store : σ) :
    (∀ a b, ((project.codePath a).same (project.codePath b) = true ↔ project.Collide a b) ∧
      ((project.declarationPath a).same (project.declarationPath b) = true ↔
        project.Collide a b)) ∧
    (∀ a b, project.Keeps a → project.Keeps b →
      ((project.layout a).stemmed = (project.layout b).stemmed ↔ a.stemmed = b.stemmed)) ∧
    ((project.fileNames.filter (!isDeclarations ·)).Pairwise (fun a b => ¬ project.Collide a b) →
      ((Program.ofProject reads project).writeOutputs store passes).files.Pairwise
        fun p q => p.same q = true → p.fileName = none) :=
  ⟨fun a b => ⟨project.same_codePath_iff a b, project.same_declarationPath_iff a b⟩,
    fun _ _ ha hb => project.stemmed_layout_eq_iff ha hb,
    fun h => (project.pairwise_path_outputsAt passes reads h).sublist
      (files_sublist project passes reads store)⟩

theorem outputs_apart_unless_collide_fivefold :
    (fivefoldProject.fileNames.filter (!isDeclarations ·)).Pairwise
        (fun a b => ¬ fivefoldProject.Collide a b) ∧
      ((Program.ofProject fivefoldTree fivefoldProject).writeOutputs fivefoldTree
        []).files.Pairwise fun p q => p.same q = true → p.fileName = none :=
  have h : (fivefoldProject.fileNames.filter (!isDeclarations ·)).Pairwise
      fun a b => ¬ fivefoldProject.Collide a b := by decide +kernel
  ⟨h, (outputs_apart_unless_collide fivefoldProject [] fivefoldTree fivefoldTree).2.2 h⟩

/-- A tree with two inputs that differ in their extensions only. -/
def twinTree : FileTree where
  entries := [(["a.ts"], .file "export const x: number = 1;\n".toUTF8),
    (["a.tsx"], .file "export const y = 2;\n".toUTF8)]
  workingDir := []

/-- The project of those inputs. -/
def twinProject : Project :=
  ⟨⟨"/tsconfig.json"⟩, ⟨"/"⟩, {}, [⟨"/a.ts"⟩, ⟨"/a.tsx"⟩], []⟩

/-- Two inputs of code, one file written twice. -/
theorem twins_share_output :
    twinProject.fileNames.map isDeclarations = [false, false] ∧
      Path.same ⟨"/a.ts"⟩ ⟨"/a.tsx"⟩ = false ∧
      (twinProject.codePath ⟨"/a.ts"⟩).same (twinProject.codePath ⟨"/a.tsx"⟩) = true ∧
      (twinProject.declarationPath ⟨"/a.ts"⟩).same
        (twinProject.declarationPath ⟨"/a.tsx"⟩) = true ∧
      ((Program.ofProject twinTree twinProject).writeOutputs twinTree []).files =
        [⟨"/a.js"⟩, ⟨"/a.js"⟩] ∧
      ((Program.ofProject twinTree twinProject).writeOutputs twinTree []).isSkipped = false := by
  decide +kernel

end QuietEmit
