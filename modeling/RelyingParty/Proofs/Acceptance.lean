import RelyingParty.Proofs.KeyList
import RelyingParty.Proofs.Loading

/-!
# Proofs/Acceptance — which variables are accepted, and why others are not

`Variables.Acceptable` says what each variable has to be, one by one.  Loading makes eight checks in
a fixed order (`Variables.checks`); `Variables.Fails` lists what each of them refuses and with which
error, and the first one that fails decides.
-/

namespace RelyingParty

/-! ## Checks in a row -/

section

variable {ε α : Type} {checks : List (Except ε Unit)}

theorem verdict_eq_error_iff {built : Except ConfigError α} {e : ConfigError} :
    verdict built = .error e ↔ built = .error e :=
  except_map_eq_error

theorem verdict_eq_ok_iff {built : Except ConfigError α} :
    verdict built = .ok () ↔ ∃ a, built = .ok a := by
  simp [verdict, map_eq_ok_iff]

/-- **Checks one after the other**, up to the first that fails. -/
def inOrder (checks : List (Except ε Unit)) : Except ε Unit :=
  checks.foldr (fun check others => check >>= fun _ => others) (.ok ())

theorem inOrder_cons (check : Except ε Unit) (checks : List (Except ε Unit)) :
    inOrder (check :: checks) = check >>= fun _ => inOrder checks :=
  rfl

theorem inOrder_eq_ok_iff : inOrder checks = .ok () ↔ ∀ check ∈ checks, check = .ok () := by
  induction checks with
  | nil => simp [inOrder]
  | cons check checks ih =>
    rw [inOrder_cons, bind_eq_ok_iff, List.forall_mem_cons, ← ih]
    exact ⟨fun ⟨_, h⟩ => h, fun h => ⟨(), h⟩⟩

/-- **The first check that fails decides the error.** -/
theorem inOrder_eq_error_iff {e : ε} :
    inOrder checks = .error e ↔ ∃ place : Nat, checks[place]? = some (.error e) ∧
      ∀ earlier < place, checks[earlier]? = some (.ok ()) := by
  induction checks with
  | nil => simp [inOrder]
  | cons check checks ih =>
    rw [inOrder_cons]
    rcases check with e' | _
    · constructor
      · intro h
        exact ⟨0, congrArg some h, nofun⟩
      · rintro ⟨_ | place, here, before⟩
        · exact Option.some.inj here
        · exact absurd (before 0 (Nat.succ_pos place)) nofun
    · change inOrder checks = .error e ↔ _
      rw [ih]
      constructor
      · rintro ⟨place, here, before⟩
        refine ⟨place + 1, here, fun earlier h => ?_⟩
        cases earlier with
        | zero => rfl
        | succ earlier => exact before earlier (Nat.lt_of_succ_lt_succ h)
      · rintro ⟨_ | place, here, before⟩
        · exact absurd here nofun
        · exact ⟨place, here, fun earlier h => before (earlier + 1) (Nat.succ_lt_succ h)⟩

end

/-! ## Single variables -/

theorem readFlag_eq_error_iff {name value : String} {e : ConfigError} :
    readFlag name value = .error e ↔ (∀ b, readFlag name value ≠ .ok b) ∧
      e = .invalidValue name (.notFlag (Text.lower (Text.trim value))) := by
  rw [readFlag]
  split
  · simp
  · simp [eq_comm]

theorem readKeys_eq_error_iff {name value : String} {e : ConfigError} :
    readKeys name value = .error e ↔ ∃ fault, Json.read KeyPair.listReader value = .error fault ∧
      e = .invalidValue name (.notKeyList fault) := by
  rw [readKeys]
  cases Json.read KeyPair.listReader value <;> simp [eq_comm]

theorem readKeys_eq_ok_iff {name value : String} {ks : List KeyPair} :
    readKeys name value = .ok ks ↔ KeyPair.IsListText value ks := by
  rw [← KeyPair.read_listReader_iff, readKeys]
  cases Json.read KeyPair.listReader value <;> simp

namespace Variables

variable {lookup : Variables} {name : String}

theorem given_eq_some_iff {value : String} :
    lookup.given name = some value ↔ lookup name = some value ∧ value ≠ "" := by
  simp [given, Option.filter_eq_some_iff]

theorem given_eq_none_iff :
    lookup.given name = none ↔ lookup name = none ∨ lookup name = some "" := by
  rw [given]
  cases lookup name <;> simp [Option.filter]

section

variable {α : Type} {read : String → String → Except ConfigError α} {standard : α}

theorem readOr_eq_error_iff {e : ConfigError} :
    lookup.readOr name read standard = .error e ↔
      ∃ value, lookup name = some value ∧ value ≠ "" ∧ read name value = .error e := by
  simp only [← and_assoc, ← given_eq_some_iff]
  rw [readOr]
  cases lookup.given name <;> simp

/-- A variable that is unset or empty is passed over. -/
theorem exists_readOr_iff :
    (∃ a, lookup.readOr name read standard = .ok a) ↔
      ∀ value, lookup name = some value → value = "" ∨ ∃ a, read name value = .ok a := by
  have given (value : String) :
      (lookup name = some value → value = "" ∨ ∃ a, read name value = .ok a) ↔
        (lookup.given name = some value → ∃ a, read name value = .ok a) := by
    rw [given_eq_some_iff]
    tauto
  simp only [given]
  rw [readOr]
  cases lookup.given name <;> simp

end

/-! ## The checks of loading -/

/-- The seven variables that are looked at. -/
def names : List String :=
  [entityId, entityAlias, nameIdFormat, registrationId, signsRequests, wantsSignedAssertions, keys]

/-- The check that a variable is given. -/
def checkGiven (lookup : Variables) (name : String) : Except ConfigError Unit :=
  if (lookup.given name).isSome then .ok () else .error (.missingVariable name)

/-- The check that a name is not blank, if there is one. -/
def checkName (blank : ConfigError) (name : Option String) : Except ConfigError Unit :=
  if name.any Text.isBlank then .error blank else .ok ()

/-- The check that the id of the example is not taken. -/
def checkReserved (id : Option String) : Except ConfigError Unit :=
  if id = some exampleRegistrationId then .error (.reservedRegistrationId exampleRegistrationId)
  else .ok ()

/-- **The checks of loading**, in their order. -/
def checks (lookup : Variables) : List (Except ConfigError Unit) := [
  lookup.checkGiven entityId,
  verdict (lookup.readOr signsRequests readFlag true),
  verdict (lookup.readOr wantsSignedAssertions readFlag true),
  verdict (lookup.readOr keys readKeys []),
  checkName .blankEntityId (lookup entityId),
  checkName .blankAlias (lookup entityAlias),
  checkName .blankRegistrationId (lookup.given registrationId),
  checkReserved (lookup.given registrationId)]

/-- The variable is given but is no truth value; the error quotes it trimmed and in lower case. -/
def NoFlag (lookup : Variables) (name : String) (e : ConfigError) : Prop :=
  ∃ value, lookup name = some value ∧ value ≠ "" ∧ (∀ b, readFlag name value ≠ .ok b) ∧
    e = .invalidValue name (.notFlag (Text.lower (Text.trim value)))

/-- **What each check refuses**, by its place, and the error that it reports. -/
def Fails (lookup : Variables) : (place : Nat) → ConfigError → Prop
  | 0, e => (lookup entityId = none ∨ lookup entityId = some "") ∧ e = .missingVariable entityId
  | 1, e => lookup.NoFlag signsRequests e
  | 2, e => lookup.NoFlag wantsSignedAssertions e
  | 3, e => ∃ value, lookup keys = some value ∧ value ≠ "" ∧ ∃ fault,
      Json.read KeyPair.listReader value = .error fault ∧ e = .invalidValue keys (.notKeyList fault)
  | 4, e => (∃ value, lookup entityId = some value ∧ Text.isBlank value = true) ∧ e = .blankEntityId
  | 5, e => (∃ value, lookup entityAlias = some value ∧ Text.isBlank value = true) ∧ e = .blankAlias
  | 6, e => (∃ value, lookup registrationId = some value ∧ value ≠ "" ∧ Text.isBlank value = true) ∧
      e = .blankRegistrationId
  | 7, e => lookup registrationId = some exampleRegistrationId ∧
      e = .reservedRegistrationId exampleRegistrationId
  | _, _ => False

/-- **What each variable has to be**, for the configuration to be accepted. -/
structure Acceptable (lookup : Variables) : Prop where
  entityId : ∃ value, lookup entityId = some value ∧ Text.isBlank value = false
  entityAlias : ∀ value, lookup entityAlias = some value → Text.isBlank value = false
  registrationId : ∀ value, lookup registrationId = some value →
    value = "" ∨ Text.isBlank value = false ∧ value ≠ exampleRegistrationId
  signsRequests : ∀ value, lookup signsRequests = some value →
    value = "" ∨ ∃ b, readFlag signsRequests value = .ok b
  wantsSignedAssertions : ∀ value, lookup wantsSignedAssertions = some value →
    value = "" ∨ ∃ b, readFlag wantsSignedAssertions value = .ok b
  keys : ∀ value, lookup keys = some value → value = "" ∨ ∃ ks, KeyPair.IsListText value ks

theorem checkGiven_eq_error_iff {e : ConfigError} :
    lookup.checkGiven name = .error e ↔
      (lookup name = none ∨ lookup name = some "") ∧ e = .missingVariable name := by
  rw [← given_eq_none_iff, checkGiven, @eq_comm _ e]
  cases lookup.given name <;> simp

theorem checkGiven_eq_ok_iff :
    lookup.checkGiven name = .ok () ↔ ∃ value, lookup name = some value ∧ value ≠ "" := by
  simp only [← given_eq_some_iff]
  rw [checkGiven]
  cases lookup.given name <;> simp

theorem checkName_eq_error_iff {blank e : ConfigError} {name : Option String} :
    checkName blank name = .error e ↔
      (∃ value, name = some value ∧ Text.isBlank value = true) ∧ e = blank := by
  rw [checkName, ← Option.any_eq_true, @eq_comm _ e]
  split_ifs with h <;> simp [h]

theorem checkName_eq_ok_iff {blank : ConfigError} {name : Option String} :
    checkName blank name = .ok () ↔ ∀ value, name = some value → Text.isBlank value = false := by
  rw [checkName]
  cases name <;> simp

theorem checkReserved_eq_error_iff {e : ConfigError} {id : Option String} :
    checkReserved id = .error e ↔ id = some exampleRegistrationId ∧
      e = .reservedRegistrationId exampleRegistrationId := by
  rw [checkReserved, @eq_comm _ e]
  split_ifs with h <;> simp [h]

theorem checkReserved_eq_ok_iff {id : Option String} :
    checkReserved id = .ok () ↔ id ≠ some exampleRegistrationId := by
  rw [checkReserved]
  split_ifs with h <;> simp [h]

theorem noFlag_iff {standard : Bool} {e : ConfigError} :
    lookup.NoFlag name e ↔ verdict (lookup.readOr name readFlag standard) = .error e := by
  simp only [NoFlag, verdict_eq_error_iff, readOr_eq_error_iff, readFlag_eq_error_iff]

theorem fails_iff {place : Nat} {e : ConfigError} :
    lookup.Fails place e ↔ lookup.checks[place]? = some (.error e) := by
  match place with
  | 0 => exact checkGiven_eq_error_iff.symm.trans Option.some_inj.symm
  | 1 => exact noFlag_iff.trans Option.some_inj.symm
  | 2 => exact noFlag_iff.trans Option.some_inj.symm
  | 3 =>
    refine Iff.trans ?_ Option.some_inj.symm
    simp only [Fails, verdict_eq_error_iff, readOr_eq_error_iff, readKeys_eq_error_iff]
  | 4 => exact checkName_eq_error_iff.symm.trans Option.some_inj.symm
  | 5 => exact checkName_eq_error_iff.symm.trans Option.some_inj.symm
  | 6 =>
    refine Iff.trans ?_ Option.some_inj.symm
    simp only [Fails, checkName_eq_error_iff, given_eq_some_iff, and_assoc]
  | 7 =>
    refine Iff.trans ?_ Option.some_inj.symm
    simp [Fails, checkReserved_eq_error_iff, given_eq_some_iff, exampleRegistrationId]
  | place + 8 => simp [Fails, checks]

/-- The two checks of the entity id. -/
theorem exists_not_isBlank_iff {o : Option String} :
    (∃ value, o = some value ∧ Text.isBlank value = false) ↔
      (∃ value, o = some value ∧ value ≠ "") ∧
        ∀ value, o = some value → Text.isBlank value = false := by
  cases o with
  | none => simp
  | some value => simpa using Text.ne_empty_of_not_isBlank

/-- The two checks of the registration's id. -/
theorem registrationId_checks_iff :
    (∀ value, lookup registrationId = some value →
        value = "" ∨ Text.isBlank value = false ∧ value ≠ exampleRegistrationId) ↔
      (∀ value, lookup.given registrationId = some value → Text.isBlank value = false) ∧
        lookup.given registrationId ≠ some exampleRegistrationId := by
  rw [given]
  cases lookup registrationId with
  | none => simp [Option.filter]
  | some value =>
    by_cases empty : value = ""
    · simp [Option.filter, empty]
    · simp [Option.filter, empty]

theorem acceptable_iff : lookup.Acceptable ↔ ∀ check ∈ lookup.checks, check = .ok () := by
  simp only [checks, List.forall_mem_cons, verdict_eq_ok_iff, checkGiven_eq_ok_iff,
    checkName_eq_ok_iff, checkReserved_eq_ok_iff, exists_readOr_iff, readKeys_eq_ok_iff]
  constructor
  · intro h
    obtain ⟨set, blank⟩ := exists_not_isBlank_iff.mp h.entityId
    obtain ⟨blankId, reserved⟩ := registrationId_checks_iff.mp h.registrationId
    exact ⟨set, h.signsRequests, h.wantsSignedAssertions, h.keys, blank, h.entityAlias, blankId,
      reserved, nofun⟩
  · rintro ⟨set, signs, wants, keys, blank, entityAlias, blankId, reserved, -⟩
    exact ⟨exists_not_isBlank_iff.mpr ⟨set, blank⟩, entityAlias,
      registrationId_checks_iff.mpr ⟨blankId, reserved⟩, signs, wants, keys⟩

/-! ## Loading -/

theorem checkRegistrationId_eq (id : String) :
    checkRegistrationId id = inOrder [checkName .blankRegistrationId (some id),
      checkReserved (some id)] := by
  simp only [inOrder_cons, checkRegistrationId, checkName, checkReserved, Option.any_some,
    Option.some_inj]
  by_cases reserved : id = exampleRegistrationId
  · rw [if_pos reserved, if_pos reserved, reserved]
    split_ifs <;> rfl
  · rw [if_neg reserved, if_neg reserved]
    split_ifs <;> rfl

/-- **Validation is a row of checks** as well. -/
theorem validate_eq_inOrder (c : ProviderConfig) :
    c.validate = inOrder [checkName .blankEntityId (some c.entityId),
      checkName .blankAlias c.entityAlias, checkName .blankRegistrationId (some c.registrationId),
      checkReserved (some c.registrationId)] := by
  rw [inOrder_cons, inOrder_cons, ← checkRegistrationId_eq, ProviderConfig.validate, checkName,
    checkName, Option.any_some]
  split_ifs <;> rfl

/-- The id that a registration has if it is given none passes both checks. -/
theorem checkName_getD_standard (blank : ConfigError) (id : Option String) :
    checkName blank (some (id.getD standardRegistrationId)) = checkName blank id := by
  cases id <;> rfl

theorem checkReserved_getD_standard (id : Option String) :
    checkReserved (some (id.getD standardRegistrationId)) = checkReserved id := by
  cases id with
  | none => rfl
  | some id => rfl

/-- **Loading makes the checks in their order.** -/
theorem verdict_load (lookup : Variables) :
    verdict (ProviderConfig.load lookup) = inOrder lookup.checks := by
  have valid (c : ProviderConfig) : verdict (c.validate >>= fun _ => .ok c) = c.validate := by
    rcases c.validate with e | _ <;> rfl
  rw [ProviderConfig.load, ProviderConfig.ofVariables]
  simp only [checks, inOrder_cons, checkGiven]
  cases given : lookup.given entityId with
  | none => rfl
  | some id =>
    rcases lookup.readOr signsRequests readFlag true with e | signs
    · rfl
    rcases lookup.readOr wantsSignedAssertions readFlag true with e | wants
    · rfl
    rcases lookup.readOr keys readKeys [] with e | ks
    · rfl
    rw [(given_eq_some_iff.mp given).1]
    refine (valid _).trans ((validate_eq_inOrder _).trans ?_)
    dsimp only
    rw [checkName_getD_standard, checkReserved_getD_standard]
    rfl

/-- A check that is made passes if it has nothing to refuse. -/
theorem passes_iff {place : Nat} (made : place < lookup.checks.length) :
    lookup.checks[place]? = some (.ok ()) ↔ ∀ e, ¬lookup.Fails place e := by
  simp only [fails_iff, List.getElem?_eq_getElem made, Option.some_inj]
  rcases lookup.checks[place] with e | _ <;> simp

end Variables

namespace ProviderConfig

open Variables (names Fails Acceptable)

variable {lookup lookup' : Variables}

/-- **Accepted variables.** -/
theorem exists_load_iff : (∃ c, load lookup = .ok c) ↔ lookup.Acceptable := by
  rw [← verdict_eq_ok_iff, Variables.verdict_load, inOrder_eq_ok_iff,
    Variables.acceptable_iff]

/-- **The error is the one of the first check that fails.** -/
theorem load_eq_error_iff {e : ConfigError} :
    load lookup = .error e ↔
      ∃ place, lookup.Fails place e ∧ ∀ earlier < place, ∀ e', ¬lookup.Fails earlier e' := by
  rw [← verdict_eq_error_iff, Variables.verdict_load, inOrder_eq_error_iff]
  refine exists_congr fun place => ?_
  rw [Variables.fails_iff]
  refine and_congr_right fun here => forall₂_congr fun earlier before => ?_
  obtain ⟨made, -⟩ := List.getElem?_eq_some_iff.mp here
  exact Variables.passes_iff (before.trans made)

/-- What is loaded is valid. -/
theorem validate_of_load {c : ProviderConfig} (h : load lookup = .ok c) : c.validate = .ok () := by
  obtain ⟨c', -, checked⟩ := bind_eq_ok_iff.mp h
  obtain ⟨_, valid, same⟩ := bind_eq_ok_iff.mp checked
  exact Except.ok.inj same ▸ valid

/-- **What loading depends on**: the values that are given, and the alias even if it is empty. -/
theorem load_congr (given : ∀ name ∈ names, lookup.given name = lookup'.given name)
    (entityAlias : lookup Variables.entityAlias = lookup' Variables.entityAlias) :
    load lookup = load lookup' := by
  simp only [names, List.forall_mem_cons] at given
  obtain ⟨entityId, -, nameIdFormat, registrationId, signs, wants, keys, -⟩ := given
  simp only [load, ofVariables, Variables.readOr, entityId, entityAlias, nameIdFormat,
    registrationId, signs, wants, keys]

theorem given_update (lookup : Variables) {name : String} (empty : lookup name = some "")
    (name' : String) :
    Variables.given (Function.update lookup name none) name' = lookup.given name' := by
  by_cases same : name' = name
  · rw [same, Variables.given, Variables.given, Function.update_self, empty]
    rfl
  · rw [Variables.given, Variables.given, Function.update_of_ne same]

/-- **An empty value counts as unset**, the alias apart. -/
theorem load_update {name : String} (empty : lookup name = some "")
    (ne : name ≠ Variables.entityAlias) : load (Function.update lookup name none) = load lookup :=
  load_congr (fun name' _ => given_update lookup empty name') (Function.update_of_ne ne.symm ..)

/-- **An empty alias is never accepted.** -/
theorem exists_error_of_empty_alias (empty : lookup Variables.entityAlias = some "") :
    ∃ e, load lookup = .error e := by
  rcases loaded : load lookup with e | c
  · exact ⟨e, rfl⟩
  · exact absurd ((exists_load_iff.mp ⟨c, loaded⟩).entityAlias "" empty) (by simp)

/-- A process finds the variables whose bytes are UTF-8. -/
theorem ofBytes_eq_some_iff {raw : String → Option (List UInt8)} {name value : String} :
    Variables.ofBytes raw name = some value ↔ raw name = some (Text.utf8 value.toList) := by
  rw [Variables.ofBytes]
  cases raw name with
  | none => simp
  | some bytes =>
    refine ⟨fun h => congrArg some (Text.eq_utf8_of_ofUtf8? h), fun h => ?_⟩
    obtain rfl := Option.some.inj h
    exact (Text.ofUtf8?_utf8 _).trans (congrArg some String.ofList_toList)

/-- **What is loaded, and what is refused for which reason.**  Loading succeeds exactly if every
variable is acceptable, and then the configuration is valid and has a registry.  If not, the error
is that of the first check that fails.  Nothing is looked at but the seven variables, and of them
an empty value counts as unset; only an alias that is set and empty is refused.  A process loads
what its environment says in UTF-8. -/
theorem acceptance_law (lookup : Variables) :
    ((∃ c, load lookup = .ok c) ↔ lookup.Acceptable) ∧
    (∀ c, load lookup = .ok c → c.validate = .ok () ∧ ∃ g, Registry.ofConfig c = .ok g) ∧
    (∀ e, load lookup = .error e ↔
      ∃ place, lookup.Fails place e ∧ ∀ earlier < place, ∀ e', ¬lookup.Fails earlier e') ∧
    (∀ lookup' : Variables, (∀ name ∈ names, lookup' name = lookup name) →
      load lookup' = load lookup) ∧
    (∀ name ∈ names, name ≠ Variables.entityAlias → lookup name = some "" →
      load (Function.update lookup name none) = load lookup) ∧
    (lookup Variables.entityAlias = some "" → ∃ e, load lookup = .error e) ∧
    ∀ raw : String → Option (List UInt8),
      (∀ name ∈ names, ∀ value, lookup name = some value ↔
        raw name = some (Text.utf8 value.toList)) →
        load (Variables.ofBytes raw) = load lookup := by
  have seven {lookup' : Variables} (alike : ∀ name ∈ names, lookup' name = lookup name) :
      load lookup' = load lookup :=
    load_congr (fun name h => Variables.given_congr (alike name h)) (alike _ (by decide))
  refine ⟨exists_load_iff, fun c loaded => ?_, fun e => load_eq_error_iff, fun _ => seven,
    fun name _ ne empty => load_update empty ne, exists_error_of_empty_alias, fun raw found => ?_⟩
  · have valid := validate_of_load loaded
    exact ⟨valid, Registry.exists_ofConfig valid⟩
  · refine seven fun name h => Option.ext fun value => ?_
    rw [found name h value]
    exact ofBytes_eq_some_iff

/-- Variables of which two cannot be accepted, and one is empty. -/
def misspeltVariables : Variables
  | "SAML_ENTITY_ID" => some "sp"
  | "SAML_ENTITY_ID_ALIAS" => some " "
  | "SAML_WANT_ASSERTION_SIGNED" => some " Perhaps "
  | "SAML_KEYS" => some ""
  | _ => none

/-- Variables that are accepted, with a key pair by its places. -/
def placedKeyVariables : Variables
  | "SAML_ENTITY_ID" => some "sp"
  | "SAML_REGISTRATION_ID" => some ""
  | "SAML_SIGN_REQUEST" => some " No "
  | "SAML_KEYS" => some "[[\"K\",\"\",\"C\"]]"
  | _ => none

theorem acceptable_placedKeyVariables : placedKeyVariables.Acceptable where
  entityId := ⟨"sp", rfl, rfl⟩
  entityAlias := by
    intro value h
    exact absurd h nofun
  registrationId := by
    rintro value ⟨⟩
    exact .inl rfl
  signsRequests := by
    rintro value ⟨⟩
    exact .inr ⟨false, by decide +kernel⟩
  wantsSignedAssertions := by
    intro value h
    exact absurd h nofun
  keys := by
    rintro value ⟨⟩
    refine .inr ⟨[⟨"K", "", "C"⟩],
      ⟨.none, .listed [.listed [.said "K", .said "", .said "C"]], .none⟩, _, _, ?_, rfl, ?_⟩
    · decide +kernel
    · exact .cons (.list (Json.Format.text_stands_said _) (Json.Format.text_stands_said _)
        (Json.Format.text_stands_said _)) .nil

theorem acceptance_law_misspelt :
    (∃ c, load placedKeyVariables = .ok c ∧ ∃ g, Registry.ofConfig c = .ok g) ∧
      load misspeltVariables
        = .error (.invalidValue "SAML_WANT_ASSERTION_SIGNED" (.notFlag "perhaps")) ∧
      load (Function.update misspeltVariables "SAML_KEYS" none) = load misspeltVariables := by
  obtain ⟨accepted, builds, -⟩ := acceptance_law placedKeyVariables
  obtain ⟨-, -, refused, -, unset, -⟩ := acceptance_law misspeltVariables
  refine ⟨?_, ?_, unset "SAML_KEYS" (by decide) (by decide) rfl⟩
  · obtain ⟨c, loaded⟩ := accepted.mpr acceptable_placedKeyVariables
    exact ⟨c, loaded, (builds c loaded).2⟩
  · rw [refused]
    refine ⟨2, ⟨" Perhaps ", rfl, by decide, ?_, ?_⟩, ?_⟩
    · decide +kernel
    · decide +kernel
    · intro earlier before e'
      match earlier with
      | 0 =>
        rintro ⟨missing | empty, -⟩
        · exact absurd missing nofun
        · exact absurd empty (by decide)
      | 1 =>
        rintro ⟨_, given, -⟩
        exact absurd given nofun

end ProviderConfig

end RelyingParty
