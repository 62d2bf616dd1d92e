import ReviveX.Eval.ModelRegistry
import ReviveX.Lib.Runs

/-!
# What the production pointer names

Processes train and predict on one directory without a lock. `save_bundle` looks whether a version
is there and then creates its directory in a second statement, which does not mind one that is
there by then. In the runs in which that directory is always new, a bundle is written by one
process, whole bundles stay as they are, and the pointer names a whole bundle that passed the
gates; so does every answer that the production model gives.
-/

namespace ReviveX

open Lib (Guarded Run)

variable {Model : Type} {kit : Toolkit Model CaseContext} {models models' : Models Model}
  {s s' : Registry Model} {job : TrainJob Model} {version v : String} {bundle b : Bundle Model}
  {i j k : ℕ} {model : Model} {metadata : Metadata} {request : PredictRequest}

/-! ## Bundles -/

/-- Both files of the bundle are whole. -/
def Bundle.IsWhole (bundle : Bundle Model) : Prop :=
  ∃ model metadata, bundle = { artifact := some (.whole model), metadata := some (.whole metadata) }

/-- A bundle without its metadata is not whole. -/
theorem Bundle.not_isWhole (h : ∀ metadata, bundle.metadata ≠ some (.whole metadata)) :
    ¬ bundle.IsWhole := by
  rintro ⟨model, metadata, rfl⟩
  exact h metadata rfl

/-- The version is a whole bundle with this model, which passes the gates on the rows that its
metadata names. -/
structure Certified (kit : Toolkit Model CaseContext) (models : Models Model) (version : String)
    (model : Model) (metadata : Metadata) : Prop where
  held : models.lookup version =
    some (.directory { artifact := some (.whole model), metadata := some (.whole metadata) })
  labelled : metadata.modelVersion = version
  admissible : (kit.heldOut metadata.seed metadata.nCases model).Admissible

/-- Whole bundles stay as they are. -/
def BundlesKept (models models' : Models Model) : Prop :=
  ∀ version bundle, bundle.IsWhole → models.lookup version = some (.directory bundle) →
    models'.lookup version = some (.directory bundle)

theorem BundlesKept.refl (models : Models Model) : BundlesKept models models :=
  fun _ _ _ h => h

theorem Certified.kept (h : Certified kit models version model metadata)
    (hkept : BundlesKept models models') : Certified kit models' version model metadata :=
  ⟨hkept _ _ ⟨model, metadata, rfl⟩ h.held, h.labelled, h.admissible⟩

/-- A write to a directory that was not whole keeps the whole ones. -/
theorem BundlesKept.insert_of_torn (hbefore : models.lookup v = some (.directory b))
    (htorn : ¬ b.IsWhole) (child : Child Model) : BundlesKept models (models.insert v child) := by
  intro version bundle hwhole hlookup
  have hne : version ≠ v := by
    rintro rfl
    obtain rfl : bundle = b := by simpa using hlookup.symm.trans hbefore
    exact htorn hwhole
  rw [AList.lookup_insert_ne hne]
  exact hlookup

/-- So does an entry that is no directory. -/
theorem BundlesKept.insert_of_absent (hbefore : ∀ b, models.lookup v ≠ some (.directory b))
    (child : Child Model) : BundlesKept models (models.insert v child) := by
  intro version bundle hwhole hlookup
  have hne : version ≠ v := by
    rintro rfl
    exact hbefore bundle hlookup
  rw [AList.lookup_insert_ne hne]
  exact hlookup

/-! ## What a training has written -/

/-- The version that a training writes, with its bundle as far as it is written. -/
def TrainJob.pending (kit : Toolkit Model CaseContext) (job : TrainJob Model) :
    Option (String × Bundle Model) :=
  match job.phase with
  | .made version => some (version, {})
  | .dumping version => some (version, { artifact := some .torn })
  | .dumped version => some (version, { artifact := some (.whole job.selected.model) })
  | .describing version =>
    some (version, { artifact := some (.whole job.selected.model), metadata := some .torn })
  | .saved version =>
    some (version, {
      artifact := some (.whole job.selected.model)
      metadata := some (.whole (job.metadata kit version)) })
  | .pointing version =>
    some (version, {
      artifact := some (.whole job.selected.model)
      metadata := some (.whole (job.metadata kit version)) })
  | _ => none

/-- The version whose directory a training creates next. -/
def TrainPhase.creates : TrainPhase → Option String
  | .checked version => some version
  | _ => none

/-- The text is the name of an entry, and no other path to it. -/
def IsEntryName (version : String) : Prop :=
  version ≠ "." ∧ version ≠ ".." ∧ '/' ∉ version.toList

instance (version : String) : Decidable (IsEntryName version) :=
  inferInstanceAs (Decidable (_ ∧ _ ∧ _))

/-- The directory that a training creates is new, and the pointer can name it:
`read_production_pointer` reads the name as it is. -/
def TrainPhase.CreatesNew (kit : Toolkit Model CaseContext) (models : Models Model)
    (phase : TrainPhase) : Prop :=
  ∀ version, phase.creates = some version →
    models.lookup version = none ∧ IsEntryName version ∧ kit.text.stripped version = version

instance (kit : Toolkit Model CaseContext) (models : Models Model) (phase : TrainPhase) :
    Decidable (phase.CreatesNew kit models) :=
  decidable_of_iff
    (phase.creates.all (fun version => (models.lookup version).isNone &&
      (decide (IsEntryName version) && decide (kit.text.stripped version = version))) = true)
    (by simp [TrainPhase.CreatesNew, Option.all_eq_true])

/-- A training creates a new directory, and a prediction does not ask for a version by the key of
the production model. -/
def OnNewDirectories (kit : Toolkit Model CaseContext) (s : Registry Model) : RegistryLabel → Prop
  | .train i => (s.jobs i).phase.CreatesNew kit s.models
  | .ask _ request => request.version ≠ some productionKey
  | _ => True

instance (kit : Toolkit Model CaseContext) (s : Registry Model) :
    ∀ label, Decidable (OnNewDirectories kit s label)
  | .train i => inferInstanceAs (Decidable ((s.jobs i).phase.CreatesNew kit s.models))
  | .crash _ => .isTrue trivial
  | .ask _ request => inferInstanceAs (Decidable (request.version ≠ some productionKey))
  | .predict _ => .isTrue trivial
  | .clearModelCache _ => .isTrue trivial

/-! ## The invariant -/

/-- What is known of the bundle that a prediction of the production model is loading. -/
def PredictPhase.Sound (kit : Toolkit Model CaseContext) (models : Models Model) :
    PredictPhase Model → Prop
  | .idle => True
  | .naming request => request.version ≠ some productionKey
  | .named request version => request.version ≠ some productionKey ∧
      (request.version = none → version ≠ "" ∧ ∃ model metadata,
        ReviveX.Certified kit models version model metadata)
  | .loaded request version model => request.version ≠ some productionKey ∧
      (request.version = none → version ≠ "" ∧ ∃ metadata,
        ReviveX.Certified kit models version model metadata)

/-- The loaded bundle is a certified one, under the version of its metadata. -/
def LoadedBundle.Sound (kit : Toolkit Model CaseContext) (models : Models Model)
    (loaded : LoadedBundle Model) : Prop :=
  ∃ version metadata, version ≠ "" ∧ loaded.2 = some metadata ∧
    ReviveX.Certified kit models version loaded.1 metadata

/-- An answer of the production model comes from the model that is saved, after it passed the
gates, under the version that the answer reports. -/
def Answered.Sound (kit : Toolkit Model CaseContext) (models : Models Model) (a : Answered) :
    Prop :=
  a.request.version = none → a.result.source = "ml" →
    outsideUnit a.result.probability = false ∧ ∃ model metadata,
      ReviveX.Certified kit models a.result.modelVersion model metadata ∧
        a.result.probability = kit.predictProba model a.request.context a.request.action

/-- The pointer names a certified bundle, if it names one. -/
def PointerSound (kit : Toolkit Model CaseContext) (models : Models Model) : Prop :=
  ∀ version, models.readProductionPointer kit.text = some (some version) →
    ∃ model metadata, Certified kit models version model metadata

namespace Registry

structure Sound (kit : Toolkit Model CaseContext) (s : Registry Model) : Prop where
  writes : ∀ i v b, (s.jobs i).pending kit = some (v, b) →
    s.models.lookup v = some (.directory b)
  alone : ∀ i j v b b', (s.jobs i).pending kit = some (v, b) →
    (s.jobs j).pending kit = some (v, b') → i = j
  stripped : ∀ i v b, (s.jobs i).pending kit = some (v, b) → kit.text.stripped v = v
  gated : ∀ i v, (s.jobs i).phase = .pointing v → (s.jobs i).published kit = true
  pointer : PointerSound kit s.models
  caches : ∀ process loaded, (s.caches process).lookup productionKey = some loaded →
    LoadedBundle.Sound kit s.models loaded
  threads : ∀ k, (s.threads k).phase.Sound kit s.models
  answers : ∀ a ∈ s.answers, a.Sound kit s.models

/-- A statement that keeps the invariant and the whole bundles. -/
structure Moves (kit : Toolkit Model CaseContext) (s s' : Registry Model) : Prop where
  sound : s'.Sound kit
  kept : BundlesKept s.models s'.models

end Registry

theorem PredictPhase.Sound.kept {phase : PredictPhase Model} (h : phase.Sound kit models)
    (hkept : BundlesKept models models') : phase.Sound kit models' := by
  cases phase with
  | idle => trivial
  | naming request => exact h
  | named request version =>
    refine ⟨h.1, fun hnone => ?_⟩
    obtain ⟨hne, model, metadata, hcertified⟩ := h.2 hnone
    exact ⟨hne, model, metadata, hcertified.kept hkept⟩
  | loaded request version model =>
    refine ⟨h.1, fun hnone => ?_⟩
    obtain ⟨hne, metadata, hcertified⟩ := h.2 hnone
    exact ⟨hne, metadata, hcertified.kept hkept⟩

theorem LoadedBundle.Sound.kept {loaded : LoadedBundle Model}
    (h : LoadedBundle.Sound kit models loaded) (hkept : BundlesKept models models') :
    LoadedBundle.Sound kit models' loaded := by
  obtain ⟨version, metadata, hne, heq, hcertified⟩ := h
  exact ⟨version, metadata, hne, heq, hcertified.kept hkept⟩

theorem Answered.Sound.kept {a : Answered} (h : a.Sound kit models)
    (hkept : BundlesKept models models') : a.Sound kit models' := by
  intro hnone hml
  obtain ⟨hunit, model, metadata, hcertified, heq⟩ := h hnone hml
  exact ⟨hunit, model, metadata, hcertified.kept hkept, heq⟩

/-! ## The pointer -/

/-- Directories do not change what the pointer names, unless one takes its place. -/
theorem PointerSound.insert_directory (h : PointerSound kit models)
    (hkept : BundlesKept models (models.insert v (.directory b))) :
    PointerSound kit (models.insert v (.directory b)) := by
  intro version hread
  unfold Models.readProductionPointer at hread
  by_cases hv : pointerName = v
  · rw [hv, AList.lookup_insert] at hread
    cases hread
  · rw [AList.lookup_insert_ne hv] at hread
    obtain ⟨model, metadata, hcertified⟩ := h version hread
    exact ⟨model, metadata, hcertified.kept hkept⟩

theorem ne_empty_of_readProductionPointer
    (h : models.readProductionPointer kit.text = some (some version)) : version ≠ "" := by
  unfold Models.readProductionPointer at h
  split at h
  · cases h
  · cases h
  · dsimp only at h
    split at h
    · cases h
    · rename_i hne
      obtain rfl := Option.some.inj (Option.some.inj h)
      exact hne

/-- The pointer file names what is written into it. -/
theorem PointerSound.writePointer {text : String}
    (hwrite : models.writePointer text = some models')
    (htext : kit.text.stripped text ≠ "" → ∃ model metadata,
      Certified kit models (kit.text.stripped text) model metadata) :
    BundlesKept models models' ∧ PointerSound kit models' ∧
      ∀ v b, models.lookup v = some (.directory b) → models'.lookup v = some (.directory b) := by
  have hfile : ∀ b, models.lookup pointerName ≠ some (.directory b) := by
    intro b hb
    unfold Models.writePointer at hwrite
    rw [hb] at hwrite
    cases hwrite
  have heq : models' = models.insert pointerName (.file text) := by
    unfold Models.writePointer at hwrite
    split at hwrite
    · cases hwrite
    · exact (Option.some.inj hwrite).symm
  subst heq
  have hkept : BundlesKept models (models.insert pointerName (.file text)) :=
    .insert_of_absent hfile _
  refine ⟨hkept, ?_, ?_⟩
  · intro version hread
    unfold Models.readProductionPointer at hread
    rw [AList.lookup_insert] at hread
    dsimp only at hread
    by_cases hempty : kit.text.stripped text = ""
    · rw [if_pos hempty] at hread
      cases hread
    · rw [if_neg hempty] at hread
      obtain rfl : kit.text.stripped text = version := by simpa using hread
      obtain ⟨model, metadata, hcertified⟩ := htext hempty
      exact ⟨model, metadata, hcertified.kept hkept⟩
  · intro v b hlookup
    have hne : v ≠ pointerName := by
      rintro rfl
      exact hfile b hlookup
    rw [AList.lookup_insert_ne hne]
    exact hlookup

/-! ## Training -/

namespace Registry
namespace Sound

/-- A statement of a training that keeps what the others have written. -/
theorem train {phase : TrainPhase} (h : s.Sound kit) (hkept : BundlesKept s.models models')
    (hothers : ∀ j, j ≠ i → ∀ v b, (s.jobs j).pending kit = some (v, b) →
      models'.lookup v = some (.directory b))
    (hown : ∀ v b, ({ s.jobs i with phase } : TrainJob Model).pending kit = some (v, b) →
      models'.lookup v = some (.directory b) ∧ kit.text.stripped v = v ∧
        ∀ j, j ≠ i → ∀ b', (s.jobs j).pending kit ≠ some (v, b'))
    (hgated : ∀ v, phase = .pointing v → (s.jobs i).published kit = true)
    (hpointer : PointerSound kit models') :
    Moves kit s { s.setPhase i phase with models := models' } := by
  have hself : Function.update s.jobs i { s.jobs i with phase } i = { s.jobs i with phase } :=
    Function.update_self i _ s.jobs
  have hother : ∀ j, j ≠ i →
      Function.update s.jobs i { s.jobs i with phase } j = s.jobs j :=
    fun j hj => Function.update_of_ne hj _ s.jobs
  refine ⟨?_, hkept⟩
  constructor
  case writes =>
    intro j v b hpending
    change (Function.update s.jobs i { s.jobs i with phase } j).pending kit = _ at hpending
    by_cases hj : j = i
    · subst hj
      rw [hself] at hpending
      exact (hown v b hpending).1
    · rw [hother j hj] at hpending
      exact hothers j hj v b hpending
  case alone =>
    intro j l v b b' hpending hpending'
    change (Function.update s.jobs i { s.jobs i with phase } j).pending kit = _ at hpending
    change (Function.update s.jobs i { s.jobs i with phase } l).pending kit = _ at hpending'
    by_cases hj : j = i <;> by_cases hl : l = i
    · rw [hj, hl]
    · subst hj
      rw [hself] at hpending
      rw [hother l hl] at hpending'
      exact absurd hpending' ((hown v b hpending).2.2 l hl b')
    · subst hl
      rw [hother j hj] at hpending
      rw [hself] at hpending'
      exact absurd hpending ((hown v b' hpending').2.2 j hj b)
    · rw [hother j hj] at hpending
      rw [hother l hl] at hpending'
      exact h.alone j l v b b' hpending hpending'
  case stripped =>
    intro j v b hpending
    change (Function.update s.jobs i { s.jobs i with phase } j).pending kit = _ at hpending
    by_cases hj : j = i
    · subst hj
      rw [hself] at hpending
      exact (hown v b hpending).2.1
    · rw [hother j hj] at hpending
      exact h.stripped j v b hpending
  case gated =>
    intro j v hphase
    change (Function.update s.jobs i { s.jobs i with phase } j).phase = _ at hphase
    change (Function.update s.jobs i { s.jobs i with phase } j).published kit = true
    by_cases hj : j = i
    · subst hj
      rw [hself] at hphase ⊢
      exact hgated v hphase
    · rw [hother j hj] at hphase ⊢
      exact h.gated j v hphase
  case pointer => exact hpointer
  case caches => exact fun process loaded hloaded => (h.caches process loaded hloaded).kept hkept
  case threads => exact fun k => (h.threads k).kept hkept
  case answers => exact fun a ha => (h.answers a ha).kept hkept

/-- A statement that leaves the directory alone, after which nothing is pending but what was. -/
theorem stay {phase : TrainPhase} (h : s.Sound kit)
    (hpending : ∀ v b, ({ s.jobs i with phase } : TrainJob Model).pending kit = some (v, b) →
      (s.jobs i).pending kit = some (v, b))
    (hgated : ∀ v, phase = .pointing v → (s.jobs i).published kit = true) :
    Moves kit s { s.setPhase i phase with models := s.models } := by
  refine h.train (.refl _) (fun j _ v b hb => h.writes j v b hb) ?_ hgated h.pointer
  intro v b hb
  have hbefore := hpending v b hb
  exact ⟨h.writes i v b hbefore, h.stripped i v b hbefore,
    fun j hj b' hb' => hj (h.alone j i v b' b hb' hbefore)⟩

/-- A training that ends. -/
theorem ends {phase : TrainPhase} (h : s.Sound kit)
    (hnone : ({ s.jobs i with phase } : TrainJob Model).pending kit = none)
    (hphase : ∀ v, phase ≠ .pointing v) :
    Moves kit s { s.setPhase i phase with models := s.models } :=
  h.stay (fun v b hb => by rw [hnone] at hb; cases hb) fun v hv => absurd hv (hphase v)

/-- A write into the directory that the training created. -/
theorem write {phase : TrainPhase} {change : Bundle Model → Bundle Model} (h : s.Sound kit)
    (hpending : (s.jobs i).pending kit = some (v, b)) (htorn : ¬ b.IsWhole)
    (hafter : ({ s.jobs i with phase } : TrainJob Model).pending kit = some (v, change b))
    (hphase : ∀ v, phase ≠ .pointing v) :
    Moves kit s { s.setPhase i phase with models := s.models.write v change } := by
  have hlookup := h.writes i v b hpending
  have hwrite : s.models.write v change = s.models.insert v (.directory (change b)) := by
    unfold Models.write
    rw [hlookup]
  have hfree : ∀ j, j ≠ i → ∀ b', (s.jobs j).pending kit ≠ some (v, b') :=
    fun j hj b' hb' => hj (h.alone j i v b' b hb' hpending)
  have hkept := BundlesKept.insert_of_torn hlookup htorn (.directory (change b))
  rw [hwrite]
  refine h.train hkept ?_ ?_ (fun w hw => absurd hw (hphase w)) (h.pointer.insert_directory hkept)
  · intro j hj w b' hb'
    have hne : w ≠ v := by
      rintro rfl
      exact hfree j hj b' hb'
    rw [AList.lookup_insert_ne hne]
    exact h.writes j w b' hb'
  · intro w b' hb'
    obtain ⟨rfl, rfl⟩ : v = w ∧ change b = b' := by simpa using hafter.symm.trans hb'
    exact ⟨AList.lookup_insert _, h.stripped i v b hpending, hfree⟩

/-- The directory of a version is created. -/
theorem mkdir (h : s.Sound kit) (hnew : s.models.lookup v = none)
    (hstripped : kit.text.stripped v = v) :
    Moves kit s { s.setPhase i (.made v) with models := s.models.insert v (.directory {}) } := by
  have hkept : BundlesKept s.models (s.models.insert v (.directory {})) :=
    .insert_of_absent (fun b hb => by rw [hnew] at hb; cases hb) _
  refine h.train hkept ?_ ?_ (fun w hw => by cases hw) (h.pointer.insert_directory hkept)
  · intro j _ w b hb
    have hlookup := h.writes j w b hb
    have hne : w ≠ v := by
      rintro rfl
      rw [hnew] at hlookup
      cases hlookup
    rw [AList.lookup_insert_ne hne]
    exact hlookup
  · intro w b hb
    obtain ⟨rfl, rfl⟩ : v = w ∧ ({} : Bundle Model) = b := by
      simpa [TrainJob.pending] using hb
    refine ⟨AList.lookup_insert _, hstripped, fun j _ b' hb' => ?_⟩
    have hlookup := h.writes j v b' hb'
    rw [hnew] at hlookup
    cases hlookup

/-- The pointer file is opened or written. -/
theorem point {phase : TrainPhase} {text : String} (h : s.Sound kit)
    (hwrite : s.models.writePointer text = some models')
    (htext : kit.text.stripped text ≠ "" → ∃ model metadata,
      Certified kit s.models (kit.text.stripped text) model metadata)
    (hpending : ∀ v b, ({ s.jobs i with phase } : TrainJob Model).pending kit = some (v, b) →
      (s.jobs i).pending kit = some (v, b))
    (hgated : ∀ v, phase = .pointing v → (s.jobs i).published kit = true) :
    Moves kit s { s.setPhase i phase with models := models' } := by
  obtain ⟨hkept, hpointer, hlookups⟩ := PointerSound.writePointer hwrite htext
  refine h.train hkept (fun j _ v b hb => hlookups v b (h.writes j v b hb)) ?_ hgated hpointer
  intro v b hb
  have hbefore := hpending v b hb
  exact ⟨hlookups v b (h.writes i v b hbefore), h.stripped i v b hbefore,
    fun j hj b' hb' => hj (h.alone j i v b' b hb' hbefore)⟩

/-- What a training points at is whole, and passed the gates. -/
theorem certified_of_pointing (h : s.Sound kit) (hphase : (s.jobs i).phase = .pointing v) :
    kit.text.stripped v = v ∧ ∃ model metadata, Certified kit s.models v model metadata := by
  have hpending : (s.jobs i).pending kit = some (v, {
      artifact := some (.whole (s.jobs i).selected.model)
      metadata := some (.whole ((s.jobs i).metadata kit v)) }) := by
    unfold TrainJob.pending
    rw [hphase]
  have hpassed : ((s.jobs i).quality kit).passed = true := by
    have hpublished := h.gated i v hphase
    unfold TrainJob.published at hpublished
    exact (Bool.and_eq_true_iff.mp hpublished).1
  exact ⟨h.stripped i v _ hpending, (s.jobs i).selected.model, (s.jobs i).metadata kit v,
    h.writes i v _ hpending, rfl, (report_passed _).mp hpassed⟩

/-- A statement that writes on in the training's own directory. -/
theorem after_write (h : s.Sound kit) {before phase : TrainPhase}
    {change : Bundle Model → Bundle Model} (hphase : (s.jobs i).phase = before)
    (hnext : ({ s.jobs i with phase := before } : TrainJob Model).next kit s.models =
      (phase, s.models.write v change))
    (hpending : ({ s.jobs i with phase := before } : TrainJob Model).pending kit = some (v, b))
    (htorn : ∀ metadata, b.metadata ≠ some (.whole metadata))
    (hwritten : ({ s.jobs i with phase } : TrainJob Model).pending kit = some (v, change b))
    (hplain : ∀ w, phase ≠ .pointing w) : Moves kit s (s.after kit (.train i)) := by
  have hjob : ({ s.jobs i with phase := before } : TrainJob Model) = s.jobs i := by
    rw [← hphase]
  rw [hjob] at hnext hpending
  have hmoves : Moves kit s { s.setPhase i phase with models := s.models.write v change } :=
    h.write hpending (Bundle.not_isWhole htorn) hwritten fun w hw => absurd hw (hplain w)
  change Moves kit s { s.setPhase i ((s.jobs i).next kit s.models).1 with
    models := ((s.jobs i).next kit s.models).2 }
  rw [hnext]
  exact hmoves

/-- A statement of a training. -/
theorem after_train (h : s.Sound kit) (hguard : OnNewDirectories kit s (.train i)) :
    Moves kit s (s.after kit (.train i)) := by
  have hself : { s.setPhase i (s.jobs i).phase with models := s.models } = s := by
    unfold setPhase
    rw [Function.update_eq_self]
  have hstep : ∀ outcome, (s.jobs i).next kit s.models = outcome →
      Moves kit s { s.setPhase i outcome.1 with models := outcome.2 } →
      Moves kit s (s.after kit (.train i)) := by
    rintro outcome rfl hmoves
    exact hmoves
  rcases hphase : (s.jobs i).phase with _ | v | v | v | v | v | v | v | v | ⟨v, published⟩ | failure
  case fitted =>
    -- the gates, and the choice of the version
    refine hstep _ rfl ?_
    unfold TrainJob.next
    rw [hphase]
    dsimp only
    split
    · exact h.ends rfl fun v hv => by cases hv
    · unfold TrainJob.chooseVersion
      split
      · exact h.ends rfl fun v hv => by cases hv
      · split
        · exact h.ends rfl fun v hv => by cases hv
        · exact h.ends rfl fun v hv => by cases hv
  case chosen =>
    refine hstep _ rfl ?_
    unfold TrainJob.next
    rw [hphase]
    dsimp only
    split
    · exact h.ends rfl fun v hv => by cases hv
    · exact h.ends rfl fun v hv => by cases hv
  case checked =>
    obtain ⟨hnew, -, hstripped⟩ : s.models.lookup v = none ∧ IsEntryName v ∧
        kit.text.stripped v = v := hguard v (by rw [hphase]; rfl)
    refine hstep (.made v, s.models.insert v (.directory {})) ?_ (h.mkdir hnew hstripped)
    unfold TrainJob.next Models.mkdir
    rw [hphase]
    dsimp only
    rw [hnew]
  -- the statements that write in the new directory: each finds it without whole metadata, so
  -- nothing that was whole before is lost
  case made => exact h.after_write hphase rfl rfl nofun rfl nofun
  case dumping => exact h.after_write hphase rfl rfl nofun rfl nofun
  case dumped => exact h.after_write hphase rfl rfl nofun rfl nofun
  case describing => exact h.after_write hphase rfl rfl nofun rfl nofun
  case saved =>
    refine hstep _ rfl ?_
    unfold TrainJob.next
    rw [hphase]
    dsimp only
    split
    · rename_i hpublished
      split
      · exact h.ends rfl fun w hw => by cases hw
      · rename_i models' hwrite
        -- opening the file empties it, and an empty text names no version
        refine h.point hwrite (fun hne => absurd rfl hne) ?_ fun _ _ => hpublished
        intro w b hb
        unfold TrainJob.pending at hb ⊢
        rw [hphase]
        exact hb
    · exact h.ends rfl fun w hw => by cases hw
  case pointing =>
    obtain ⟨hstripped, hcertified⟩ := h.certified_of_pointing hphase
    refine hstep _ rfl ?_
    unfold TrainJob.next
    rw [hphase]
    dsimp only
    split
    · exact h.ends rfl fun w hw => by cases hw
    · rename_i models' hwrite
      refine h.point hwrite (fun _ => by rw [hstripped]; exact hcertified) ?_ fun w hw => by
        cases hw
      intro w b hb
      cases hb
  case returned =>
    refine hstep (.returned v published, s.models) ?_ ?_
    · unfold TrainJob.next
      rw [hphase]
    · rw [← hphase, hself]
      exact ⟨h, .refl _⟩
  case raised =>
    refine hstep (.raised failure, s.models) ?_ ?_
    · unfold TrainJob.next
      rw [hphase]
    · rw [← hphase, hself]
      exact ⟨h, .refl _⟩

end Sound
end Registry

/-! ## Predicting -/

/-- What a statement of a prediction leaves is sound. -/
structure PredictOutcome.Sound (kit : Toolkit Model CaseContext) (models : Models Model)
    (outcome : PredictOutcome Model) : Prop where
  phase : outcome.phase.Sound kit models
  cache : ∀ loaded, outcome.cache.lookup productionKey = some loaded →
    LoadedBundle.Sound kit models loaded
  answered : ∀ a ∈ outcome.answered, a.Sound kit models

section

variable {cache : PipelineCache Model} {loaded : LoadedBundle Model}
  {result : Option PredictedProbability}

/-- A request that is not for the key has it exactly if it is for the production model. -/
theorem key_eq_productionKey (hordinary : request.version ≠ some productionKey) :
    request.key = productionKey ↔ request.version = none := by
  unfold PredictRequest.key
  cases hversion : request.version with
  | none => exact iff_of_true rfl rfl
  | some version =>
    rw [hversion] at hordinary
    simpa using hordinary

theorem fallback_source {p : PredictedProbability} (h : request.fallback = some p) :
    p.source = fallbackVersion := by
  unfold PredictRequest.fallback at h
  split at h
  · cases h
  · obtain ⟨probability, -, h⟩ := Option.bind_eq_some_iff.mp h
    split at h
    · cases h
    · obtain rfl := Option.some.inj h
      rfl

/-- A fallback is no answer of the model. -/
theorem sound_of_fallback {a : Answered} (ha : a ∈ request.answered request.fallback) :
    a.Sound kit models := by
  intro _ hml
  cases hfallback : request.fallback with
  | none =>
    rw [hfallback] at ha
    cases ha
  | some p =>
    rw [hfallback] at ha
    obtain rfl : a = ⟨request, p⟩ := by simpa [PredictRequest.answered] using ha
    have hsource : p.source = fallbackVersion := fallback_source hfallback
    rw [hml] at hsource
    exact absurd hsource (by decide +kernel)

/-- The answer of a certified bundle. -/
theorem sound_of_answer (hloaded : request.version = none → LoadedBundle.Sound kit models loaded)
    {a : Answered} (ha : a ∈ request.answered (request.answer kit loaded)) :
    a.Sound kit models := by
  unfold PredictRequest.answer at ha
  dsimp only at ha
  split at ha
  · exact sound_of_fallback ha
  · rename_i hunit
    intro hnone _
    obtain rfl : a = _ := by simpa [PredictRequest.answered] using ha
    obtain ⟨version, metadata, hne, heq, hcertified⟩ := hloaded hnone
    refine ⟨by simpa using hunit, loaded.1, metadata, ?_, rfl⟩
    dsimp only
    rw [heq, Option.map_some, Option.filter_some, hcertified.labelled,
      if_pos (by simpa using hne), Option.getD_some]
    exact hcertified

theorem finish_sound (hcache : ∀ loaded, cache.lookup productionKey = some loaded →
      LoadedBundle.Sound kit models loaded)
    (hresult : ∀ a ∈ request.answered result, a.Sound kit models) :
    (request.finish cache result).Sound kit models :=
  ⟨trivial, hcache, hresult⟩

/-- A loaded bundle is cached under the key of its request. -/
theorem answerWith_sound (hordinary : request.version ≠ some productionKey)
    (hcache : ∀ loaded, cache.lookup productionKey = some loaded →
      LoadedBundle.Sound kit models loaded)
    (hloaded : request.version = none → LoadedBundle.Sound kit models loaded) :
    (request.answerWith kit cache loaded).Sound kit models := by
  refine ⟨trivial, ?_, fun a ha => sound_of_answer hloaded ha⟩
  intro loaded' hlookup
  change (cache.insert request.key loaded).lookup productionKey = some loaded' at hlookup
  by_cases hkey : request.key = productionKey
  · rw [hkey, AList.lookup_insert] at hlookup
    obtain rfl := Option.some.inj hlookup
    exact hloaded ((key_eq_productionKey hordinary).mp hkey)
  · rw [AList.lookup_insert_ne (Ne.symm hkey)] at hlookup
    exact hcache loaded' hlookup

/-- A request starts. -/
theorem start_sound (hordinary : request.version ≠ some productionKey)
    (hcache : ∀ loaded, cache.lookup productionKey = some loaded →
      LoadedBundle.Sound kit models loaded) :
    (request.start kit cache).Sound kit models := by
  unfold PredictRequest.start
  cases hlookup : cache.lookup request.key with
  | none => exact ⟨hordinary, hcache, fun a ha => by cases ha⟩
  | some loaded =>
    refine finish_sound hcache fun a ha => sound_of_answer (fun hnone => ?_) ha
    rw [(key_eq_productionKey hordinary).mpr hnone] at hlookup
    exact hcache loaded hlookup

/-- The next statement of a prediction. -/
theorem PredictPhase.Sound.next {phase : PredictPhase Model} (hpointer : PointerSound kit models)
    (hphase : phase.Sound kit models)
    (hcache : ∀ loaded, cache.lookup productionKey = some loaded →
      LoadedBundle.Sound kit models loaded) :
    (phase.next kit models cache).Sound kit models := by
  have hnothing : ∀ {request : PredictRequest}, (request.finish cache none).Sound kit models :=
    finish_sound hcache fun a ha => by cases ha
  have hfallback : ∀ {request : PredictRequest},
      (request.finish cache request.fallback).Sound kit models :=
    finish_sound hcache fun a ha => sound_of_fallback ha
  have hmoves : ∀ {phase : PredictPhase Model}, phase.Sound kit models →
      PredictOutcome.Sound kit models { phase, cache } :=
    fun hphase => ⟨hphase, hcache, fun a ha => by cases ha⟩
  cases phase with
  | idle => exact hmoves trivial
  | naming request =>
    unfold PredictPhase.next
    dsimp only
    cases hversion : request.version with
    | some version =>
      refine hmoves ⟨hphase, fun hnone => ?_⟩
      rw [hversion] at hnone
      cases hnone
    | none =>
      dsimp only
      cases hread : models.readProductionPointer kit.text with
      | none => exact hnothing
      | some named =>
        cases named with
        | none => exact hfallback
        | some version =>
          refine hmoves ⟨hphase, fun _ => ⟨?_, hpointer version hread⟩⟩
          exact ne_empty_of_readProductionPointer hread
  | named request version =>
    unfold PredictPhase.next
    dsimp only
    split
    · rename_i model metadata hlookup
      refine hmoves ⟨hphase.1, fun hnone => ?_⟩
      obtain ⟨hne, model', metadata', hcertified⟩ := hphase.2 hnone
      rw [hcertified.held] at hlookup
      simp only [Option.some.injEq, Child.directory.injEq, Bundle.mk.injEq,
        WrittenFile.whole.injEq] at hlookup
      obtain ⟨rfl, -⟩ := hlookup
      exact ⟨hne, metadata', hcertified⟩
    · exact hfallback
  | loaded request version model =>
    unfold PredictPhase.next
    dsimp only
    split
    · rename_i artifact metadata hlookup
      refine answerWith_sound hphase.1 hcache fun hnone => ?_
      obtain ⟨hne, metadata', hcertified⟩ := hphase.2 hnone
      have hheld := hcertified.held
      rw [hlookup] at hheld
      simp only [Option.some.injEq, Child.directory.injEq, Bundle.mk.injEq,
        WrittenFile.whole.injEq] at hheld
      obtain ⟨-, rfl⟩ := hheld
      exact ⟨version, metadata, hne, rfl, hcertified⟩
    · exact hnothing
    · rename_i hmetadata _
      refine answerWith_sound hphase.1 hcache fun hnone => ?_
      obtain ⟨-, metadata', hcertified⟩ := hphase.2 hnone
      exact absurd hcertified.held (hmetadata _ _)

end

/-! ## Runs -/

namespace Registry

/-- A statement of a thread. -/
theorem Sound.setThread {outcome : PredictOutcome Model} (h : s.Sound kit)
    (houtcome : outcome.Sound kit s.models) : Moves kit s (s.setThread k outcome) := by
  refine ⟨?_, .refl _⟩
  constructor
  case writes => exact h.writes
  case alone => exact h.alone
  case stripped => exact h.stripped
  case gated => exact h.gated
  case pointer => exact h.pointer
  case caches =>
    intro process loaded hloaded
    change (Function.update s.caches (s.threads k).process outcome.cache process).lookup
      productionKey = some loaded at hloaded
    by_cases hprocess : process = (s.threads k).process
    · subst hprocess
      rw [Function.update_self] at hloaded
      exact houtcome.cache loaded hloaded
    · rw [Function.update_of_ne hprocess] at hloaded
      exact h.caches process loaded hloaded
  case threads =>
    intro l
    change (Function.update s.threads k { s.threads k with phase := outcome.phase } l).phase.Sound
      kit s.models
    by_cases hl : l = k
    · subst hl
      rw [Function.update_self]
      exact houtcome.phase
    · rw [Function.update_of_ne hl]
      exact h.threads l
  case answers =>
    intro a ha
    rcases List.mem_append.mp ha with hbefore | hnew
    · exact h.answers a hbefore
    · exact houtcome.answered a hnew

/-- A statement of any process. -/
theorem Sound.after (label : RegistryLabel) (h : s.Sound kit)
    (hguard : OnNewDirectories kit s label) :
    Moves kit s (s.after kit label) := by
  cases label with
  | train i => exact h.after_train hguard
  | crash i => exact h.ends rfl fun v hv => by cases hv
  | ask k request =>
    unfold Registry.after
    dsimp only
    split
    · exact h.setThread (start_sound hguard (h.caches _))
    · exact ⟨h, .refl _⟩
  | predict k => exact h.setThread ((h.threads k).next h.pointer (h.caches _))
  | clearModelCache process =>
    refine ⟨⟨h.writes, h.alone, h.stripped, h.gated, h.pointer, ?_, h.threads, h.answers⟩,
      .refl _⟩
    intro other loaded hloaded
    change (Function.update s.caches process ∅ other).lookup productionKey = some loaded at hloaded
    by_cases hother : other = process
    · subst hother
      rw [Function.update_self, AList.lookup_empty] at hloaded
      cases hloaded
    · rw [Function.update_of_ne hother] at hloaded
      exact h.caches other loaded hloaded

/-- Nothing has happened yet. -/
structure Fresh (s : Registry Model) : Prop where
  jobs : ∀ i, (s.jobs i).phase = .fitted
  caches : ∀ process, s.caches process = ∅
  threads : ∀ k, (s.threads k).phase = .idle
  answers : s.answers = []

theorem Fresh.sound (h : s.Fresh) (hpointer : PointerSound kit s.models) : s.Sound kit := by
  have hnone : ∀ i, (s.jobs i).pending kit = none := by
    intro i
    unfold TrainJob.pending
    rw [h.jobs i]
  constructor
  case writes =>
    intro i v b hb
    rw [hnone i] at hb
    cases hb
  case alone =>
    intro i j v b b' hb
    rw [hnone i] at hb
    cases hb
  case stripped =>
    intro i v b hb
    rw [hnone i] at hb
    cases hb
  case gated =>
    intro i v hphase
    rw [h.jobs i] at hphase
    cases hphase
  case pointer => exact hpointer
  case caches =>
    intro process loaded hloaded
    rw [h.caches process, AList.lookup_empty] at hloaded
    cases hloaded
  case threads =>
    intro k
    rw [h.threads k]
    trivial
  case answers =>
    intro a ha
    rw [h.answers] at ha
    cases ha

end Registry

/-- The invariant holds after an undisturbed run. -/
theorem Registry.Fresh.moves {labels : List RegistryLabel} (hfresh : s.Fresh)
    (hpointer : PointerSound kit s.models)
    (hrun : Run (Guarded (Registry.Step kit) (OnNewDirectories kit)) s labels s') :
    Registry.Moves kit s s' := by
  -- the step lemma needs the invariant at its start; what it keeps is kept since the beginning
  induction hrun with
  | nil => exact ⟨hfresh.sound hpointer, .refl _⟩
  | snoc _ last ih =>
    obtain ⟨hguard, rfl⟩ := last
    have hlast := ih.sound.after _ hguard
    exact ⟨hlast.sound, fun v b hwhole hb => hlast.kept v b hwhole (ih.kept v b hwhole hb)⟩

/-- The models are a good one and a bad one; every case has the chance that its model gives. -/
def sampleKit : Toolkit Bool CaseContext where
  text :=
    { isDigit := Char.isDigit
      digit := fun c => if c.isDigit then some (c.toNat - '0'.toNat) else none
      isSpace := Char.isWhitespace
      isDigit_ascii := fun _ h => h
      digit_ascii := fun _ h => if_pos h
      isSpace_graph := fun c hlow hhigh => by
        have hother : ∀ d : Char, d.toNat < 33 → c ≠ d := by
          rintro d hd rfl
          omega
        simp [Char.isWhitespace, hother ' ' (by decide), hother '\t' (by decide),
          hother '\r' (by decide), hother '\n' (by decide)] }
  heldOut _ _ good :=
    { yTrue := [0, 1]
      yProb := [.finite (1 / 4), .finite (3 / 4)]
      rocAuc := .finite (if good then 1 else 1 / 2)
      prAuc := .finite 1
      brier := .finite (1 / 16)
      ece := .finite 0
      trainCaseIds := []
      testCaseIds := []
      featureNames := modelFeatureColumns }
  predictProba good _ _ := .finite (if good then 1 / 2 else 1 / 4)

/-- A training that fitted one model. -/
def fittedJob (good publish : Bool) : TrainJob Bool where
  args := { publish }
  logistic := ⟨"logistic_regression", good, 1 / 8⟩
  forest := ⟨"random_forest", good, 1 / 8⟩

/-- A training of the good model that publishes, and others of the bad one that do not. -/
def sampleRegistry : Registry Bool where
  models := ∅
  jobs i := fittedJob (i = 0) (i = 0)
  caches _ := ∅
  threads _ := { process := 0 }

theorem sampleRegistry_fresh : sampleRegistry.Fresh :=
  ⟨fun _ => rfl, fun _ => rfl, fun _ => rfl, rfl⟩

theorem sampleRegistry_pointer : PointerSound sampleKit sampleRegistry.models := by
  intro version hread
  cases hread

/-- A request for the production model. -/
def sampleRequest : PredictRequest where
  context :=
    { amount :=
        { number := .finite 100
          abs_lt := fun q h => by
            cases h
            decide +kernel }
      failureReason := "DECLINED"
      attemptNumber := 1 }
  action := .retryNow

/-- The registry after these statements. -/
def registryAfter (labels : List RegistryLabel) : Registry Bool :=
  labels.foldl (fun s label => s.after sampleKit label) sampleRegistry

/-- The good model is published, and then asked; another training comes after it. -/
def publishedAndAsked : List RegistryLabel :=
  List.replicate 9 (.train 0) ++ .ask 0 sampleRequest :: List.replicate 3 (.predict 0) ++
    List.replicate 9 (.train 1)

end ReviveX
