import RelyingParty.Proofs.Construction
import RelyingParty.Session

/-!
# Proofs/History — what a session owes to its past

Of all the steps that a session has gone through, its answers depend on three: the one that set the
tenant last, the one that filled the shared key store last, and the one that built a registry last.
`Session.Reflects` is the invariant that says so: every step keeps it (`step_reflects`), so it holds
after every run (`run_reflects`).  The key store counts only where the registry is one of parts.
-/

namespace RelyingParty

/-! ## What steps leave behind -/

namespace Step

/-- The tenant that a step sets. -/
def tenant? : Step → Option Tenant
  | setTenant t => some t
  | _ => none

/-- The keys that a step puts into the shared store. -/
def keys? : Step → Option (List KeyPair)
  | setKeys keys => some keys
  | _ => none

/-- The recipe that a step builds a registry from, if it succeeds. -/
def recipe? : Step → Option Recipe
  | rebuild recipe => if recipe.build.isOk then some recipe else none
  | _ => none

/-- **A quiet step**: a lookup, a request or a question, or a rebuilding that fails. -/
def IsQuiet : Step → Prop
  | setTenant _ => False
  | setKeys _ => False
  | rebuild recipe => ∃ e, recipe.build = .error e
  | _ => True

theorem IsQuiet.leaves_nothing {step : Step} (h : step.IsQuiet) :
    step.recipe? = none ∧ step.tenant? = none ∧ step.keys? = none := by
  rcases step with _ | _ | _ | _ | recipe | _ | _ | _ | _ | _
  case rebuild =>
    obtain ⟨e, failed⟩ := h
    exact ⟨by rw [recipe?, failed]; rfl, rfl, rfl⟩
  case setTenant => exact h.elim
  case setKeys => exact h.elim
  all_goals exact ⟨rfl, rfl, rfl⟩

end Step

/-- **The last thing of a kind that the steps leave behind**, or else what there was before. -/
def latest (left? : Step → Option α) (before : α) (steps : List Step) : α :=
  (steps.filterMap left?).getLast?.getD before

section Latest

variable {left? : Step → Option α} {before : α}

theorem latest_cons (step : Step) (steps : List Step) :
    latest left? before (step :: steps) = latest left? ((left? step).getD before) steps := by
  rcases h : left? step with _ | a
  · rw [latest, List.filterMap_cons_none h]
    rfl
  · rw [latest, List.filterMap_cons_some h, List.getLast?_cons]
    rfl

theorem latest_skip {step : Step} (h : left? step = none) (steps after : List Step) :
    latest left? before (steps ++ step :: after) = latest left? before (steps ++ after) := by
  rw [latest, latest, List.filterMap_append, List.filterMap_append, List.filterMap_cons_none h]

end Latest

/-! ## Default keys -/

namespace Recipe

/-- **The default keys of a registry**, by the recipe that it was built from: those of the
configuration, or for parts those in the shared store. -/
def defaultKeys (sharedKeys : List KeyPair) : Recipe → List KeyPair
  | config c => c.defaultKeys
  | environment lookup =>
    match ProviderConfig.load lookup with
    | .ok c => c.defaultKeys
    | .error _ => []
  | parts _ => sharedKeys

/-- **A recipe that holds the default keys itself**, as all but parts do. -/
def HoldsKeys : Recipe → Prop
  | parts _ => False
  | _ => True

theorem HoldsKeys.defaultKeys_eq {recipe : Recipe} (h : recipe.HoldsKeys)
    (keys keys' : List KeyPair) : recipe.defaultKeys keys = recipe.defaultKeys keys' := by
  rcases recipe with c | lookup | p
  · rfl
  · rfl
  · exact h.elim

theorem keys_of_ofConfig {c : ProviderConfig} {g : Registry} (h : Registry.ofConfig c = .ok g)
    (around : Surroundings) : g.keySource.keys around = c.defaultKeys := by
  obtain ⟨p, built⟩ := Registry.exists_ofProfile_of_ofConfig h
  rw [(Registry.ofProfile_eq_ok_iff.mp built).2.2.2]
  rfl

theorem keys_of_build {recipe : Recipe} {g : Registry} (h : recipe.build = .ok g)
    (around : Surroundings) : g.keySource.keys around = recipe.defaultKeys around.sharedKeys := by
  rcases recipe with c | lookup | p
  · exact keys_of_ofConfig h around
  · obtain ⟨c, loaded, built⟩ := bind_eq_ok_iff.mp h
    rw [keys_of_ofConfig built around, defaultKeys, loaded]
  · rw [RegistryParts.keySource_of_build h]
    rfl

end Recipe

/-! ## The invariant -/

namespace Session

variable {s s' : Session} {recipe : Recipe} {t : Tenant} {keys keys' : List KeyPair}

/-- **A session reflects its past**: its registry is the one that the recipe builds, it works for
the tenant, and the keys are in the shared store. -/
structure Reflects (s : Session) (recipe : Recipe) (t : Tenant) (keys : List KeyPair) : Prop where
  built : recipe.build = .ok s.registry
  tenant : s.around.tenant = t
  sharedKeys : s.around.sharedKeys = keys

theorem reflects_of_start (h : start recipe t keys = .ok s) : s.Reflects recipe t keys := by
  obtain ⟨g, built, begun⟩ := bind_eq_ok_iff.mp h
  obtain rfl := Except.ok.inj begun
  exact ⟨built, rfl, rfl⟩

theorem Reflects.lookedUp (h : s.Reflects recipe t keys)
    (result : Audited (Except ServiceError Registration)) :
    (s.lookedUp result).1.Reflects recipe t keys := by
  obtain ⟨found, events⟩ := result
  rcases found with e | r
  · exact h
  · exact ⟨h.built, h.tenant, h.sharedKeys⟩

/-- **Every step keeps the invariant.** -/
theorem step_reflects (h : s.Reflects recipe t keys) (step : Step) :
    (s.step step).1.Reflects (step.recipe?.getD recipe) (step.tenant?.getD t)
      (step.keys?.getD keys) := by
  rcases step with _ | _ | _ | _ | recipe' | _ | _ | _ | baseUrl | _
  case find => exact h.lookedUp _
  case resolve => exact h.lookedUp _
  case setTenant => exact ⟨h.built, rfl, h.sharedKeys⟩
  case setKeys => exact ⟨h.built, h.tenant, rfl⟩
  case rebuild =>
    rcases built : recipe'.build with e | g
    · have kept : (s.step (.rebuild recipe')).1 = s := by simp only [Session.step, built]
      rw [kept, Step.recipe?, built]
      exact h
    · have replaced : (s.step (.rebuild recipe')).1 = { s with registry := g } := by
        simp only [Session.step, built]
      rw [replaced, Step.recipe?, built]
      exact ⟨built, h.tenant, h.sharedKeys⟩
  case expand =>
    have kept : (s.step (.expand baseUrl)).1 = s := by
      rcases last : s.last with _ | r <;> simp only [Session.step, last]
    rw [kept]
    exact h
  all_goals exact h

theorem run_cons (s : Session) (step : Step) (steps : List Step) :
    s.run (step :: steps)
      = (((s.step step).1.run steps).1, (s.step step).2 :: ((s.step step).1.run steps).2) := rfl

/-- **After a run a session reflects the last of each kind.** -/
theorem run_reflects (h : s.Reflects recipe t keys) (steps : List Step) :
    (s.run steps).1.Reflects (latest Step.recipe? recipe steps) (latest Step.tenant? t steps)
      (latest Step.keys? keys steps) := by
  induction steps generalizing s recipe t keys with
  | nil => exact h
  | cons step steps ih =>
    rw [run_cons, latest_cons, latest_cons, latest_cons]
    exact ih (step_reflects h step)

/-! ## Answers -/

/-- The answer to a step after a run. -/
def answerAfter (s : Session) (steps : List Step) (step : Step) : Answer :=
  ((s.run steps).1.step step).2

/-- **The answers of a run**, each after the steps before it. -/
theorem answers_getElem? (s : Session) (steps : List Step) (i : Nat) :
    (s.run steps).2[i]? = steps[i]?.map (s.answerAfter (steps.take i)) := by
  induction steps generalizing s i with
  | nil => rfl
  | cons step steps ih =>
    rcases i with _ | i
    · rfl
    · exact ih (s.step step).1 i

end Session

/-- What an answer says of a lookup. -/
def Answer.lookup? : Answer → Option (Audited (Except ServiceError Registration))
  | found r _ events => some ⟨.ok r, events⟩
  | notFound e events => some ⟨.error e, events⟩
  | _ => none

/-- **An answer less what it says of the registration that was found before it.** -/
def Answer.forgetLast : Answer → Answer
  | found r _ events => found r none events
  | locations _ _ => noRegistration
  | answer => answer

namespace Session

variable {s s' : Session} {recipe : Recipe} {t : Tenant} {keys keys' : List KeyPair}

theorem lookup?_lookedUp (s : Session) (result : Audited (Except ServiceError Registration)) :
    (s.lookedUp result).2.lookup? = some result := by
  obtain ⟨found, events⟩ := result
  rcases found with e | r <;> rfl

theorem forgetLast_lookedUp (s s' : Session)
    (result : Audited (Except ServiceError Registration)) :
    (s.lookedUp result).2.forgetLast = (s'.lookedUp result).2.forgetLast := by
  obtain ⟨found, events⟩ := result
  rcases found with e | r <;> rfl

theorem respond_congr (agree : s.registry.Agree s'.registry s.around s'.around)
    (tenant : s.around.tenant = s'.around.tenant) (r : MetadataRequest) :
    s.respond r = s'.respond r := by
  simp only [respond, MetadataService.respond_of_agree agree, tenant]

/-- **Sessions over registries that agree, for one tenant, answer alike**, but for what they found
last. -/
theorem step_congr (agree : s.registry.Agree s'.registry s.around s'.around)
    (tenant : s.around.tenant = s'.around.tenant) (step : Step) :
    (s.step step).2.forgetLast = (s'.step step).2.forgetLast := by
  rcases step with id | ⟨id, t⟩ | _ | _ | recipe | _ | _ | _ | baseUrl | r
  case find =>
    simp only [Session.step, agree.find tenant]
    exact s.forgetLast_lookedUp s' _
  case resolve =>
    simp only [Session.step, agree.resolve]
    exact s.forgetLast_lookedUp s' _
  case rebuild =>
    rcases built : recipe.build with e | g <;> simp only [Session.step, built]
  case ownId => simp only [Session.step, agree.ownId]
  case inspect => simp only [Session.step, Registry.inspect, agree.ownId, agree.profile]
  case filename => simp only [Session.step, tenant]
  case expand =>
    rcases last : s.last with _ | r <;> rcases last' : s'.last with _ | r' <;>
      simp only [Session.step, last, last', Answer.forgetLast]
  case request => simp only [Session.step, respond_congr agree tenant]
  all_goals rfl

/-- **An answer follows from the past that a session reflects**, and from the shared keys only as
far as they are the default ones. -/
theorem answer_of_reflects (h : s.Reflects recipe t keys) (h' : s'.Reflects recipe t keys')
    (same : recipe.defaultKeys keys = recipe.defaultKeys keys') (step : Step) :
    (s.step step).2.forgetLast = (s'.step step).2.forgetLast := by
  have registry : s.registry = s'.registry := Except.ok.inj (h.built.symm.trans h'.built)
  refine step_congr ⟨congrArg _ registry, congrArg _ registry, ?_⟩
    (h.tenant.trans h'.tenant.symm) step
  rw [Recipe.keys_of_build h.built, Recipe.keys_of_build h'.built, h.sharedKeys, h'.sharedKeys,
    same]

/-- **No answer is stale.**  In every run of a session, a lookup is answered as by a registry
freshly built from the recipe that succeeded last, for the tenant that was set last, over the
default keys of the recipe: its own, or for parts those that were put into the shared store last.  A
quiet step changes no answer to any later step, and no answer of a registry that holds its default
keys is changed by new keys in the store. -/
theorem no_answer_stale (h : start recipe t keys = .ok s) :
    (∀ steps i id, steps[i]? = some (.find id) →
      let recipe' := latest Step.recipe? recipe (steps.take i)
      let t' := latest Step.tenant? t (steps.take i)
      let keys' := latest Step.keys? keys (steps.take i)
      ∃ g answer, recipe'.build = .ok g ∧
        g.keySource.keys ⟨t', keys'⟩ = recipe'.defaultKeys keys' ∧
        (s.run steps).2[i]? = some answer ∧ answer.lookup? = some (g.find ⟨t', keys'⟩ id)) ∧
    (∀ before step after next, step.IsQuiet →
      (s.answerAfter (before ++ step :: after) next).forgetLast
        = (s.answerAfter (before ++ after) next).forgetLast) ∧
    ∀ before newKeys after next, (latest Step.recipe? recipe (before ++ after)).HoldsKeys →
      (s.answerAfter (before ++ .setKeys newKeys :: after) next).forgetLast
        = (s.answerAfter (before ++ after) next).forgetLast := by
  have reflects := fun steps => run_reflects (reflects_of_start h) steps
  refine ⟨fun steps i id at_i => ?_, fun before step after next quiet => ?_,
    fun before newKeys after next holds => ?_⟩
  · obtain ⟨built, tenant, sharedKeys⟩ := reflects (steps.take i)
    have around : (s.run (steps.take i)).1.around = ⟨_, _⟩ :=
      congrArg₂ Surroundings.mk tenant sharedKeys
    refine ⟨_, s.answerAfter (steps.take i) (.find id), built, Recipe.keys_of_build built _,
      ?_, ?_⟩
    · rw [answers_getElem?, at_i]
      rfl
    · rw [← around]
      exact lookup?_lookedUp _ _
  · obtain ⟨noRecipe, noTenant, noKeys⟩ := quiet.leaves_nothing
    have with_step := reflects (before ++ step :: after)
    rw [latest_skip noRecipe, latest_skip noTenant, latest_skip noKeys] at with_step
    exact answer_of_reflects with_step (reflects (before ++ after)) rfl next
  · have noRecipe : (Step.setKeys newKeys).recipe? = none := rfl
    have noTenant : (Step.setKeys newKeys).tenant? = none := rfl
    have with_keys := reflects (before ++ .setKeys newKeys :: after)
    rw [latest_skip noRecipe, latest_skip noTenant] at with_keys
    exact answer_of_reflects with_keys (reflects (before ++ after)) (holds.defaultKeys_eq _ _) next

/-- A configuration that holds a key. -/
def configured : Recipe := .config { entityId := "sp", defaultKeys := [⟨"old", "", "CERT-1"⟩] }

/-- Parts that leave the keys to the shared store. -/
def unkeyed : Recipe := .parts { registrationId := "default", identity := ⟨"sp", some "alias"⟩ }

/-- A run in which the registry is rebuilt twice, the second time without success. -/
def eventful (t : Tenant) (keys : List KeyPair) : List Step :=
  [.setTenant t, .rebuild unkeyed, .setKeys keys, .rebuild (.config { entityId := " " }),
    .find "default"]

theorem no_answer_stale_rebuilt :
    let zone : Tenant := { id := ⟨9⟩, subdomain := "zone" }
    let keys : List KeyPair := [⟨"new", "", "CERT-2"⟩]
    ∃ s, start configured (.default ⟨7⟩) [] = .ok s ∧
      (∃ g answer, unkeyed.build = .ok g ∧ (s.run (eventful zone keys)).2[4]? = some answer ∧
        answer.lookup? = some (g.find ⟨zone, keys⟩ "default")) ∧
      (s.answerAfter [.find "none", .setKeys keys] (.find "default")).forgetLast
        = (s.answerAfter [.find "none"] (.find "default")).forgetLast ∧
      (s.answerAfter [.find "none"] (.find "default")).forgetLast
        = (s.answerAfter [] (.find "default")).forgetLast := by
  intro zone keys
  obtain ⟨s, started⟩ : ∃ s, start configured (.default ⟨7⟩) [] = .ok s := ⟨_, rfl⟩
  obtain ⟨lookups, quiet, unmoved⟩ := no_answer_stale started
  obtain ⟨g, answer, built, -, at_4, told⟩ := lookups (eventful zone keys) 4 "default" rfl
  exact ⟨s, started, ⟨g, answer, built, at_4, told⟩, unmoved [.find "none"] keys [] _ trivial,
    quiet [] (.find "none") [] _ trivial⟩

end Session

end RelyingParty
