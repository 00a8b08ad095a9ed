import QueryBridge.Proofs.Log.History

/-!
# The root over time

The root gets its handler and its level from the calls that configure it.  The first call does so,
whether it asks for a logger or for a configuration, and after it those calls only that force it.
So the root has one handler at any time behind the first call, and the level of the root and of
its handler is that of the last call with an effect.
-/

namespace QueryBridge.Log

/-! ## Calls -/

namespace Step

/-- Whether the step is a call that configures the root if that has not happened. -/
def isCall : Step → Bool
  | configure .. | getLogger .. => true
  | _ => false

/-- Whether the step configures the root in any case. -/
def isForced : Step → Bool
  | configure _ _ force => force
  | _ => false

/-- The level that a call is given, with the environment of that moment. -/
def level? : Step → Option Level
  | configure environment level _ => some (Level.resolve environment level)
  | getLogger environment _ level _ => some (Level.resolve environment level)
  | _ => none

/-- The step does not ask for the root itself as a logger. -/
def SparesRoot : Step → Prop
  | getLogger _ name _ _ => name ≠ "" ∧ name ≠ rootName
  | _ => True

/-- The call is the first one, or it is forced. -/
def IsEffective (step : Step) (before : List Step) : Prop :=
  step.isCall = true ∧ ((∀ earlier ∈ before, earlier.isCall = false) ∨ step.isForced = true)

end Step

/-- The last effective call among the steps is given the level. -/
def IsLastLevel (steps : List Step) (level : Level) : Prop :=
  ∃ before step later, steps = before ++ step :: later ∧ step.IsEffective before ∧
    step.level? = some level ∧ ¬ ∃ middle other rest, later = middle ++ other :: rest ∧
      other.IsEffective (before ++ step :: middle)

theorem isLastLevel_concat_of_isEffective {steps : List Step} {step : Step} {level : Level}
    (h : step.IsEffective steps) (hlevel : step.level? = some level) :
    IsLastLevel (steps ++ [step]) level := by
  refine ⟨steps, step, [], rfl, h, hlevel, ?_⟩
  rintro ⟨middle, other, rest, hnil, -⟩
  simp at hnil

theorem IsLastLevel.concat {steps : List Step} {level : Level} (h : IsLastLevel steps level)
    {last : Step} (hlast : ¬ last.IsEffective steps) : IsLastLevel (steps ++ [last]) level := by
  obtain ⟨before, step, later, rfl, heffective, hlevel, hlater⟩ := h
  refine ⟨before, step, later ++ [last], by simp, heffective, hlevel, ?_⟩
  exact mt exists_split_concat_iff.mp (not_or.mpr ⟨hlast, hlater⟩)

/-! ## The root of a hub -/

namespace Hub

/-- Two hubs have the same root. -/
structure SameRoot (first second : Hub) : Prop where
  configured_eq : first.configured = second.configured
  rootLevel_eq : first.rootLevel = second.rootLevel
  rootHandlers_eq : first.rootHandlers = second.rootHandlers

/-- The root has been configured with the level: it has one handler, which shows extras. -/
structure IsConfigured (hub : Hub) (level : Level) : Prop where
  configured_eq : hub.configured = true
  rootLevel_eq : hub.rootLevel = level
  rootHandlers_eq : hub.rootHandlers = [⟨level, some .structured⟩]

/-- The root has not been configured and has no handlers. -/
structure IsBare (hub : Hub) : Prop where
  configured_eq : hub.configured = false
  rootHandlers_eq : hub.rootHandlers = []

/-- The root is bare if none of the steps is a call, and else has the level of the last effective
one. -/
def Tracks (hub : Hub) (steps : List Step) : Prop :=
  ((∀ step ∈ steps, step.isCall = false) ∧ hub.IsBare) ∨
    (∃ step ∈ steps, step.isCall = true) ∧
      ∃ level, IsLastLevel steps level ∧ hub.IsConfigured level

variable {first second hub : Hub} {environment : Option String} {choice : Option Level.Choice}
  {level : Level}

theorem SameRoot.refl (hub : Hub) : SameRoot hub hub :=
  ⟨rfl, rfl, rfl⟩

theorem SameRoot.trans {third : Hub} (h : SameRoot first second) (h' : SameRoot second third) :
    SameRoot first third :=
  ⟨h.configured_eq.trans h'.configured_eq, h.rootLevel_eq.trans h'.rootLevel_eq,
    h.rootHandlers_eq.trans h'.rootHandlers_eq⟩

theorem IsConfigured.of_sameRoot (h : second.IsConfigured level) (hsame : SameRoot first second) :
    first.IsConfigured level :=
  ⟨hsame.configured_eq.trans h.configured_eq, hsame.rootLevel_eq.trans h.rootLevel_eq,
    hsame.rootHandlers_eq.trans h.rootHandlers_eq⟩

theorem IsBare.of_sameRoot (h : second.IsBare) (hsame : SameRoot first second) : first.IsBare :=
  ⟨hsame.configured_eq.trans h.configured_eq, hsame.rootHandlers_eq.trans h.rootHandlers_eq⟩

/-! ### Configuring -/

theorem configure_of_configured (h : hub.configured = true) (environment : Option String)
    (choice : Option Level.Choice) : hub.configure environment choice false = hub := by
  unfold configure
  rw [h]
  rfl

/-- A bare root is configured, and any root is if that is forced. -/
theorem isConfigured_configure {force : Bool} (h : hub.IsBare ∨ force = true)
    (environment : Option String) (choice : Option Level.Choice) :
    (hub.configure environment choice force).IsConfigured (Level.resolve environment choice) := by
  have hwanted : (hub.configured && !force) = false := by
    rcases h with hbare | rfl
    · rw [hbare.configured_eq]
      rfl
    · simp
  have hpresent : (if force then [] else hub.rootHandlers) = [] := by
    rcases h with hbare | rfl
    · rw [hbare.rootHandlers_eq]
      simp
    · rfl
  unfold configure install
  dsimp only
  rw [hwanted, hpresent]
  exact ⟨rfl, rfl, rfl⟩

/-! ### Other changes -/

theorem sameRoot_register (hub : Hub) (name : String) : SameRoot (hub.register name) hub := by
  unfold register
  split <;> exact ⟨rfl, rfl, rfl⟩

theorem sameRoot_setLevel {name : String} (h : name ≠ rootName) (hub : Hub) (level : Level) :
    SameRoot (hub.setLevel name level) hub := by
  unfold setLevel
  rw [if_neg h]
  exact ⟨rfl, rfl, rfl⟩

theorem normalName_ne_rootName {name : String} (h : name ≠ "" ∧ name ≠ rootName) :
    normalName name ≠ rootName := by
  unfold normalName
  rw [if_neg h.1]
  exact h.2

/-- Asking for a named logger does to the root what a configuration does. -/
theorem sameRoot_getLogger {name : String} (h : name ≠ "" ∧ name ≠ rootName) (hub : Hub)
    (environment : Option String) (choice : Option Level.Choice) (extras : Fields Json.Value) :
    SameRoot (hub.getLogger environment name choice extras).1
      (hub.configure environment choice false) := by
  have hregister := sameRoot_register (hub.configure environment choice false) (normalName name)
  unfold getLogger
  cases choice with
  | none => exact hregister
  | some given => exact (sameRoot_setLevel (normalName_ne_rootName h) _ _).trans hregister

end Hub

/-! ## Steps -/

namespace Setup

open Hub (SameRoot)

variable {setup : Setup} {step : Step}

theorem sameRoot_perform_of_not_isCall (h : step.isCall = false) (setup : Setup) :
    SameRoot (setup.perform step).hub setup.hub := by
  cases step with
  | configure environment level force => cases h
  | getLogger environment name level extras => cases h
  | rawLogger name => exact Hub.sameRoot_register _ _
  | newRedactor secrets => exact ⟨rfl, rfl, rfl⟩
  | addSecrets redactor secrets => exact ⟨rfl, rfl, rfl⟩
  | clearSecrets redactor => exact ⟨rfl, rfl, rfl⟩
  | bind handle extras => exact .refl _
  | bindRedactor handle redactor => exact .refl _
  | log handle message level extras => exact .refl _

/-- Behind the first call only forced ones change the root. -/
theorem sameRoot_perform_of_configured (hconfigured : setup.hub.configured = true)
    (hname : step.SparesRoot) (hforced : step.isForced = false) :
    SameRoot (setup.perform step).hub setup.hub := by
  cases step with
  | configure environment level force =>
      obtain rfl : force = false := hforced
      show SameRoot (setup.hub.configure environment level false) setup.hub
      rw [Hub.configure_of_configured hconfigured]
      exact .refl _
  | getLogger environment name level extras =>
      have hsame := Hub.sameRoot_getLogger hname setup.hub environment level extras
      rw [Hub.configure_of_configured hconfigured] at hsame
      exact hsame
  | _ => exact sameRoot_perform_of_not_isCall rfl setup

/-- The first call configures the root, and a forced one does. -/
theorem isConfigured_perform (hcall : step.isCall = true) (hname : step.SparesRoot)
    (h : setup.hub.IsBare ∨ step.isForced = true) :
    ∃ level, step.level? = some level ∧ (setup.perform step).hub.IsConfigured level := by
  cases step with
  | configure environment level force =>
      exact ⟨_, rfl, Hub.isConfigured_configure h environment level⟩
  | getLogger environment name level extras =>
      exact ⟨_, rfl, (Hub.isConfigured_configure h environment level).of_sameRoot
        (Hub.sameRoot_getLogger hname setup.hub environment level extras)⟩
  | _ => cases hcall

variable {steps : List Step}

/-- A step without effect leaves the root as it is. -/
theorem sameRoot_perform_of_not_isEffective (h : setup.hub.Tracks steps) (hname : step.SparesRoot)
    (hnone : ¬ step.IsEffective steps) : SameRoot (setup.perform step).hub setup.hub := by
  cases hcall : step.isCall with
  | false => exact sameRoot_perform_of_not_isCall hcall setup
  | true =>
      have hforced : step.isForced = false :=
        eq_false_of_ne_true fun hforce => hnone ⟨hcall, Or.inr hforce⟩
      rcases h with ⟨hcalls, -⟩ | ⟨-, level, -, hroot⟩
      · exact absurd ⟨hcall, Or.inl hcalls⟩ hnone
      · exact sameRoot_perform_of_configured hroot.configured_eq hname hforced

theorem tracks_perform_of_not_isEffective (h : setup.hub.Tracks steps) (hname : step.SparesRoot)
    (hnone : ¬ step.IsEffective steps) : (setup.perform step).hub.Tracks (steps ++ [step]) := by
  have hsame := sameRoot_perform_of_not_isEffective h hname hnone
  rcases h with ⟨hcalls, hroot⟩ | ⟨⟨call, hmem, hcall⟩, level, hlevel, hroot⟩
  · -- the step is no call, as it would be the first one
    have hcall : step.isCall = false :=
      eq_false_of_ne_true fun hcall => hnone ⟨hcall, Or.inl hcalls⟩
    refine Or.inl ⟨?_, hroot.of_sameRoot hsame⟩
    rw [List.forall_mem_append, List.forall_mem_singleton]
    exact ⟨hcalls, hcall⟩
  · exact Or.inr ⟨⟨call, List.mem_append_left _ hmem, hcall⟩, level, hlevel.concat hnone,
      hroot.of_sameRoot hsame⟩

theorem tracks_perform_of_isEffective (h : setup.hub.Tracks steps) (hname : step.SparesRoot)
    (heffective : step.IsEffective steps) :
    (setup.perform step).hub.Tracks (steps ++ [step]) := by
  obtain ⟨hcall, hwhen⟩ := heffective
  have hchanged : setup.hub.IsBare ∨ step.isForced = true := by
    rcases h with ⟨-, hroot⟩ | ⟨⟨call, hmem, hearlier⟩, -⟩
    · exact Or.inl hroot
    · rcases hwhen with hfirst | hforced
      · exact absurd ((hfirst call hmem).symm.trans hearlier) Bool.false_ne_true
      · exact Or.inr hforced
  obtain ⟨level, hlevel, hroot⟩ := isConfigured_perform hcall hname hchanged
  exact Or.inr ⟨⟨step, List.mem_append_right _ (List.mem_singleton_self step), hcall⟩, level,
    isLastLevel_concat_of_isEffective ⟨hcall, hwhen⟩ hlevel, hroot⟩

/-! ## Runs -/

variable {start : Setup}

theorem tracks_after (hbare : start.hub.IsBare) (hnames : ∀ step ∈ steps, step.SparesRoot) :
    (start.after steps).hub.Tracks steps := by
  induction steps using List.reverseRecOn with
  | nil => exact Or.inl ⟨List.forall_mem_nil _, hbare⟩
  | append_singleton steps step ih =>
      rw [List.forall_mem_append, List.forall_mem_singleton] at hnames
      rw [after_concat]
      by_cases heffective : step.IsEffective steps
      · exact tracks_perform_of_isEffective (ih hnames.1) hnames.2 heffective
      · exact tracks_perform_of_not_isEffective (ih hnames.1) hnames.2 heffective

/-- Whatever a program does from a bare root on, once it has made a call the root has one handler,
which shows extras, and both have the level of the last effective call; no other step changes
the root. -/
theorem root_follows_last_effective_call (start : Setup) (steps : List Step)
    (hbare : start.hub.IsBare) (hnames : ∀ step ∈ steps, step.SparesRoot)
    (hcalls : ∃ step ∈ steps, step.isCall = true) :
    (∃ level, IsLastLevel steps level ∧ (start.after steps).hub.rootLevel = level ∧
      (start.after steps).hub.rootHandlers = [⟨level, some .structured⟩]) ∧
    ∀ before step later, steps = before ++ step :: later → ¬ step.IsEffective before →
      (start.after (before ++ [step])).hub.rootLevel = (start.after before).hub.rootLevel ∧
      (start.after (before ++ [step])).hub.rootHandlers =
        (start.after before).hub.rootHandlers := by
  constructor
  · rcases tracks_after hbare hnames with ⟨hnone, -⟩ | ⟨-, level, hlevel, hroot⟩
    · obtain ⟨step, hstep, hcall⟩ := hcalls
      exact absurd ((hnone step hstep).symm.trans hcall) Bool.false_ne_true
    · exact ⟨level, hlevel, hroot.rootLevel_eq, hroot.rootHandlers_eq⟩
  · rintro before step later rfl hnone
    obtain ⟨hbefore, hlater⟩ := List.forall_mem_append.mp hnames
    have hsame := sameRoot_perform_of_not_isEffective (tracks_after hbare hbefore)
      (hlater step List.mem_cons_self) hnone
    rw [after_concat]
    exact ⟨hsame.rootLevel_eq, hsame.rootHandlers_eq⟩

/-- A logger configures the root, a configuration that is not forced does not change it, and the
last logger, behind a forced one, keeps its level to itself. -/
theorem forced_configuration_counts :
    let steps : List Step := [.rawLogger "root", .getLogger (some "debug") "app.a" none [],
      .configure (some "ERROR") none false, .configure none (some (.name "warning")) true,
      .getLogger (some "debug") "app" (some (.number 5)) []]
    initial.hub.IsBare ∧ (∀ step ∈ steps, step.SparesRoot) ∧
      (∃ step ∈ steps, step.isCall = true) ∧ IsLastLevel steps Level.warning := by
  intro steps
  have hbare : initial.hub.IsBare := ⟨rfl, rfl⟩
  have hnames : ∀ step ∈ steps, step.SparesRoot := by
    simp [steps, Step.SparesRoot, rootName]
  have hcalls : ∃ step ∈ steps, step.isCall = true := by decide
  obtain ⟨⟨level, hlevel, hroot, -⟩, -⟩ :=
    root_follows_last_effective_call initial steps hbare hnames hcalls
  have hwarning : (initial.after steps).hub.rootLevel = Level.warning := by decide +kernel
  rw [hroot.symm.trans hwarning] at hlevel
  exact ⟨hbare, hnames, hcalls, hlevel⟩

end Setup

end QueryBridge.Log
