import ReviveX.Eval.RegistryTheorems
import ReviveX.Lib.Separated
import Mathlib.Data.List.MinMax

/-!
# One training at a time

A name that `next_model_version` gives is new, however many versions there are and whatever else
the directory holds. So trainings that follow each other and leave the choice of the name to it
are undisturbed, and what is saved and answered is sound.
-/

namespace ReviveX

open Lib (Guarded Run strip_eq_self toList_natText)

variable {Model : Type} {kit : Toolkit Model CaseContext} {models : Models Model}
  {s s' : Registry Model} {text : VersionText} {version v : String} {i j : ℕ}

/-! ## New names -/

/-- Digits are read as their number. -/
theorem foldlM_digit {digits : List Char} (h : ∀ c ∈ digits, c.isDigit = true) (n : ℕ) :
    digits.foldlM (fun n c => (text.digit c).map (10 * n + ·)) n =
      some (Nat.ofDigitChars 10 digits n) := by
  induction digits generalizing n with
  | nil => simp
  | cons c rest ih =>
    have hdigit := text.digit_ascii c (h c List.mem_cons_self)
    have hrest := ih (fun d hd => h d (List.mem_cons_of_mem _ hd)) (10 * n + (c.toNat - '0'.toNat))
    rw [List.foldlM_cons, hdigit, Nat.ofDigitChars_cons]
    exact hrest

theorem isDigit_natText (n : ℕ) : ∀ c ∈ (toString n).toList, c.isDigit = true := by
  intro c hc
  rw [toList_natText] at hc
  exact Nat.isDigit_of_mem_toDigits (by decide) (by decide) hc

/-- `int(str(n))`. -/
theorem int_natText (text : VersionText) (n : ℕ) : text.int (toString n).toList = some n := by
  unfold VersionText.int
  rw [foldlM_digit (isDigit_natText n), toList_natText]
  simp

theorem isNumber_natText (text : VersionText) (n : ℕ) :
    text.isNumber (toString n).toList = true := by
  have hne : (toString n).toList ≠ [] := by
    rw [toList_natText]
    exact Nat.toDigits_ne_nil
  unfold VersionText.isNumber
  simp only [Bool.and_eq_true, Bool.not_eq_true', List.all_eq_true]
  refine ⟨List.isEmpty_eq_false_iff.mpr hne, fun c hc => ?_⟩
  exact text.isDigit_ascii c (isDigit_natText n c hc)

theorem versionSuffix_append (n : ℕ) :
    versionSuffix (versionPrefix ++ toString n) = some (toString n).toList := by
  unfold versionSuffix
  rw [String.toList_append, if_pos (List.isPrefixOf_iff_prefix.mpr (List.prefix_append _ _)),
    ← String.length_toList, List.drop_left]

/-- Where every entry is read, so is each of them. -/
theorem exists_of_mapM {α β : Type} {f : α → Option β} {xs : List α} {ys : List β} {x : α}
    (h : xs.mapM f = some ys) (hx : x ∈ xs) : ∃ y ∈ ys, f x = some y := by
  induction xs generalizing ys with
  | nil => cases hx
  | cons x' rest ih =>
    rw [List.mapM_cons] at h
    obtain ⟨y, hy, h⟩ := Option.bind_eq_some_iff.mp h
    obtain ⟨ys', hys', h⟩ := Option.bind_eq_some_iff.mp h
    obtain rfl := Option.some.inj h
    rcases List.mem_cons.mp hx with rfl | hrest
    · exact ⟨y, List.mem_cons_self, hy⟩
    · obtain ⟨z, hz, hread⟩ := ih hys' hrest
      exact ⟨z, List.mem_cons_of_mem _ hz, hread⟩

/-- What `next_model_version` gives is numbered, and no entry of the directory has the name. -/
theorem nextModelVersion_new (h : nextModelVersion text models = some version) :
    models.lookup version = none ∧ ∃ n, version = versionPrefix ++ toString (n + 1) := by
  unfold nextModelVersion at h
  obtain ⟨existing, hread, h⟩ := Option.bind_eq_some_iff.mp h
  obtain rfl := Option.some.inj h
  refine ⟨?_, existing.foldr max 0, rfl⟩
  rw [AList.lookup_eq_none]
  intro hmem
  -- the name would be among those whose largest number was taken
  have hsuffix : (toString (existing.foldr max 0 + 1)).toList ∈
      (models.keys.filterMap versionSuffix).filter text.isNumber := by
    rw [List.mem_filter]
    refine ⟨List.mem_filterMap.mpr ⟨_, AList.mem_keys.mp hmem, versionSuffix_append _⟩, ?_⟩
    exact isNumber_natText text _
  have hnumber : existing.foldr max 0 + 1 ∈ existing := by
    obtain ⟨n, hn, hint⟩ := exists_of_mapM hread hsuffix
    rw [int_natText] at hint
    obtain rfl := Option.some.inj hint
    exact hn
  have hle : existing.foldr max 0 + 1 ≤ existing.foldr max 0 :=
    List.le_max_of_le hnumber le_rfl
  omega

theorem isEntryName_numbered (n : ℕ) : IsEntryName (versionPrefix ++ toString n) := by
  have hlong : ∀ short : String, short.length < versionPrefix.length →
      versionPrefix ++ toString n ≠ short := by
    rintro short hshort rfl
    rw [String.length_append] at hshort
    omega
  refine ⟨hlong "." (by decide), hlong ".." (by decide), fun hslash => ?_⟩
  rw [String.toList_append] at hslash
  rcases List.mem_append.mp hslash with hprefix | hdigit
  · exact absurd hprefix (by decide)
  · exact absurd (isDigit_natText n _ hdigit) (by decide)

/-- No character of the name is white space. -/
theorem stripped_numbered (text : VersionText) (n : ℕ) :
    text.stripped (versionPrefix ++ toString n) = versionPrefix ++ toString n := by
  have hgraph : ∀ c ∈ (versionPrefix ++ toString n).toList, text.isSpace c = false := by
    intro c hc
    rw [String.toList_append] at hc
    rcases List.mem_append.mp hc with hprefix | hdigit
    · have hbounds : versionPrefix.toList.all (fun c => 33 ≤ c.toNat && c.toNat ≤ 126) = true := by
        decide +kernel
      have hgraph := List.all_eq_true.mp hbounds c hprefix
      simp only [Bool.and_eq_true, decide_eq_true_eq] at hgraph
      exact text.isSpace_graph c hgraph.1 hgraph.2
    · obtain ⟨hlow, hhigh⟩ := Char.isDigit_iff_toNat.mp (isDigit_natText n c hdigit)
      have hzero : '0'.toNat = 48 := rfl
      have hnine : '9'.toNat = 57 := rfl
      exact text.isSpace_graph c (by omega) (by omega)
  unfold VersionText.stripped
  rw [strip_eq_self hgraph, String.ofList_toList]

/-! ## Trainings that follow each other -/

/-- The version that a training has chosen and not yet created. -/
def TrainPhase.claimed : TrainPhase → Option String
  | .chosen version => some version
  | .checked version => some version
  | _ => none

/-- The training has not started, or it has ended. -/
def TrainPhase.Resting : TrainPhase → Prop
  | .fitted => True
  | .returned _ _ => True
  | .raised _ => True
  | _ => False

/-- A training leaves the choice of its version to `next_model_version` and is the only one that
is on its way. -/
def OneAtATime (s : Registry Model) : RegistryLabel → Prop
  | .train i => (s.jobs i).args.modelVersion.filter (· ≠ "") = none ∧
      ∀ j, j ≠ i → (s.jobs j).phase.Resting
  | .ask _ request => request.version ≠ some productionKey
  | _ => True

/-- A phase that no name stands in the way of. -/
structure TrainPhase.Unhindered (kit : Toolkit Model CaseContext) (models : Models Model)
    (phase : TrainPhase) : Prop where
  claimed : ∀ version, phase.claimed = some version →
    models.lookup version = none ∧ IsEntryName version ∧ kit.text.stripped version = version
  free : ∀ version, phase ≠ .raised (.versionExists version)
  made : phase ≠ .raised .fileExistsError

theorem TrainPhase.Unhindered.of_resting {models' : Models Model} {phase : TrainPhase}
    (h : phase.Unhindered kit models) (hresting : phase.Resting) :
    phase.Unhindered kit models' := by
  refine ⟨fun version hclaimed => ?_, h.free, h.made⟩
  cases phase with
  | chosen version => exact hresting.elim
  | checked version => exact hresting.elim
  | _ => cases hclaimed

/-- The next statement of a training that chooses no version itself. -/
theorem TrainPhase.Unhindered.next {job : TrainJob Model}
    (h : job.phase.Unhindered kit models)
    (hnone : job.args.modelVersion.filter (· ≠ "") = none) :
    (job.next kit models).1.Unhindered kit (job.next kit models).2 := by
  -- a phase that claims no version can only fail, and not on a version that exists
  have hends : ∀ {phase : TrainPhase} {models' : Models Model}, phase.claimed = none →
      (∀ failure, phase = .raised failure → failure ≠ .fileExistsError ∧
        ∀ version, failure ≠ .versionExists version) → phase.Unhindered kit models' := by
    intro phase models' hclaimed hfailure
    refine ⟨fun version hversion => ?_, fun version hraised => ?_, fun hraised => ?_⟩
    · rw [hclaimed] at hversion
      cases hversion
    · exact (hfailure _ hraised).2 version rfl
    · exact (hfailure _ hraised).1 rfl
  unfold TrainJob.next
  rcases hphase : job.phase with _ | v | v | v | v | v | v | v | v | ⟨v, published⟩ | failure
  case fitted =>
    dsimp only
    split
    · exact hends rfl fun failure hf => by cases hf; exact ⟨nofun, nofun⟩
    · unfold TrainJob.chooseVersion
      rw [hnone]
      dsimp only
      split
      · rename_i version hversion
        -- the numbered name is free, an entry of the directory and without blanks
        obtain ⟨hnew, n, hname⟩ := nextModelVersion_new hversion
        refine ⟨fun version' hclaimed => ?_, nofun, nofun⟩
        obtain rfl := Option.some.inj hclaimed
        rw [hname] at hnew ⊢
        exact ⟨hnew, isEntryName_numbered _, stripped_numbered kit.text _⟩
      · exact hends rfl fun failure hf => by cases hf; exact ⟨nofun, nofun⟩
  case chosen =>
    have hopen := h.claimed v (by rw [hphase]; rfl)
    dsimp only
    rw [hopen.1]
    refine ⟨fun version' hclaimed => ?_, nofun, nofun⟩
    obtain rfl := Option.some.inj hclaimed
    exact hopen
  case checked =>
    obtain ⟨hnew, -⟩ := h.claimed v (by rw [hphase]; rfl)
    dsimp only
    unfold Models.mkdir
    rw [hnew]
    exact hends rfl nofun
  case saved =>
    dsimp only
    split
    · split
      · exact hends rfl fun failure hf => by cases hf; exact ⟨nofun, nofun⟩
      · exact hends rfl nofun
    · exact hends rfl nofun
  case pointing =>
    dsimp only
    split
    · exact hends rfl fun failure hf => by cases hf; exact ⟨nofun, nofun⟩
    · exact hends rfl nofun
  case raised =>
    dsimp only
    rw [← hphase]
    exact h
  all_goals exact hends rfl nofun

/-- A statement that follows the rule is undisturbed, and no name comes into the way. -/
theorem unhindered_after (label : RegistryLabel)
    (h : ∀ i, (s.jobs i).phase.Unhindered kit s.models) (hguard : OneAtATime s label) :
    OnNewDirectories kit s label ∧
      ∀ i, ((s.after kit label).jobs i).phase.Unhindered kit (s.after kit label).models := by
  cases label with
  | train i =>
    obtain ⟨hnone, hothers⟩ := hguard
    constructor
    · intro version hcreates
      refine (h i).claimed version ?_
      generalize (s.jobs i).phase = phase at hcreates
      cases phase with
      | checked version' => exact hcreates
      | _ => cases hcreates
    · intro j
      change (Function.update s.jobs i { s.jobs i with phase := _ } j).phase.Unhindered kit
        ((s.jobs i).next kit s.models).2
      -- one training moves, and the others rest
      by_cases hj : j = i
      · subst hj
        rw [Function.update_self]
        exact (h j).next hnone
      · rw [Function.update_of_ne hj]
        exact (h j).of_resting (hothers j hj)
  | crash i =>
    refine ⟨trivial, fun j => ?_⟩
    change (Function.update s.jobs i { s.jobs i with phase := .raised .crashed } j).phase.Unhindered
      kit s.models
    by_cases hj : j = i
    · subst hj
      rw [Function.update_self]
      exact ⟨nofun, nofun, nofun⟩
    · rw [Function.update_of_ne hj]
      exact h j
  | ask k request =>
    refine ⟨hguard, ?_⟩
    unfold Registry.after
    dsimp only
    split
    · exact h
    · exact h
  | predict k => exact ⟨trivial, h⟩
  | clearModelCache process => exact ⟨trivial, h⟩

/-- A version that is chosen is new in its directory. Trainings that follow each other, and crash
where they may, never meet a version that is there already; with predictions in between that do
not ask for the key of the production model, the pointer names a whole bundle that passed the
gates, whole bundles never change, and the answers of the production model come from it. -/
theorem sequentialTrainings_sound (kit : Toolkit Model CaseContext) (s s' : Registry Model)
    (labels : List RegistryLabel) (hfresh : s.Fresh) (hpointer : PointerSound kit s.models)
    (hrun : Run (Guarded (Registry.Step kit) OneAtATime) s labels s') :
    (∀ (models : Models Model) (version : String),
        nextModelVersion kit.text models = some version → models.lookup version = none) ∧
      (∀ i, (s'.jobs i).phase ≠ .raised .fileExistsError ∧
        ∀ version, (s'.jobs i).phase ≠ .raised (.versionExists version)) ∧
      PointerSound kit s'.models ∧ BundlesKept s.models s'.models ∧
        ∀ a ∈ s'.answers, a.Sound kit s'.models := by
  have hnames : Run (Guarded (Registry.Step kit) (OnNewDirectories kit)) s labels s' ∧
      ∀ i, (s'.jobs i).phase.Unhindered kit s'.models := by
    -- that directories are new and that no job is hindered carry each other from step to step
    induction hrun with
    | nil =>
      refine ⟨.nil, fun i => ?_⟩
      rw [hfresh.jobs i]
      exact ⟨nofun, nofun, nofun⟩
    | snoc _ last ih =>
      obtain ⟨hguard, rfl⟩ := last
      obtain ⟨hundisturbed, hunhindered⟩ := unhindered_after _ ih.2 hguard
      exact ⟨ih.1.snoc ⟨hundisturbed, rfl⟩, hunhindered⟩
  have hmoves := hfresh.moves hpointer hnames.1
  exact ⟨fun models version hversion => (nextModelVersion_new hversion).1,
    fun i => ⟨(hnames.2 i).made, (hnames.2 i).free⟩, hmoves.sound.pointer, hmoves.kept,
    hmoves.sound.answers⟩

/-- A training of the good model, while no other one is on its way. -/
theorem trainings_alone (n : ℕ) :
    Run (Guarded (Registry.Step sampleKit) OneAtATime) sampleRegistry (List.replicate n (.train 0))
        (registryAfter (List.replicate n (.train 0))) ∧
      ((registryAfter (List.replicate n (.train 0))).jobs 0).args.modelVersion = none ∧
      ∀ j, j ≠ 0 →
        (registryAfter (List.replicate n (.train 0))).jobs j = fittedJob false false := by
  -- after each round the other jobs are where they were, so the next one is alone again
  induction n with
  | zero =>
    refine ⟨.nil, rfl, fun j hj => ?_⟩
    show fittedJob (decide (j = 0)) (decide (j = 0)) = _
    rw [decide_eq_false hj]
  | succ n ih =>
    obtain ⟨hrun, hnone, hothers⟩ := ih
    have hlast : registryAfter (List.replicate (n + 1) (.train 0)) =
        (registryAfter (List.replicate n (.train 0))).after sampleKit (.train 0) := by
      unfold registryAfter
      rw [List.replicate_succ', List.foldl_append]
      rfl
    rw [hlast]
    refine ⟨?_, ?_, fun j hj => ?_⟩
    · rw [List.replicate_succ']
      refine hrun.snoc ⟨⟨?_, fun j hj => ?_⟩, rfl⟩
      · rw [hnone]
        rfl
      · rw [hothers j hj]
        trivial
    · exact hnone
    · exact (Function.update_of_ne hj _ _).trans (hothers j hj)

theorem sequentialTrainings_sound_published :
    (registryAfter (List.replicate 9 (.train 0))).models.readProductionPointer sampleKit.text =
        some (some "recovery-v1") ∧
      ∃ model metadata, Certified sampleKit (registryAfter (List.replicate 9 (.train 0))).models
        "recovery-v1" model metadata := by
  have hread : (registryAfter (List.replicate 9 (.train 0))).models.readProductionPointer
      sampleKit.text = some (some "recovery-v1") := by decide +kernel
  obtain ⟨-, -, hpointer, -⟩ := sequentialTrainings_sound sampleKit _ _ _ sampleRegistry_fresh
    sampleRegistry_pointer (trainings_alone 9).1
  exact ⟨hread, hpointer "recovery-v1" hread⟩

end ReviveX
