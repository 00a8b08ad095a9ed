import QueryBridge.Bridge.Adapter
import QueryBridge.Proofs.Property
import QueryBridge.Proofs.Text.CodeString

/-!
# The credentials of an adapter

An adapter has the two properties of its credentials throughout; values are given to them,
but none is ever added or lost.  `PropertyMap.holding` is that map as a function of the two
values, and each operation of maps has an equation on it.  A connection encodes the credentials,
which must be texts for the Basic scheme.
-/

namespace QueryBridge

namespace Credentials

theorem authorization?_basic_eq_some_iff {username password : CodeString}
    {authorization : Authorization} :
    (Credentials.basic username password).authorization? = some authorization ↔
      ∃ user pass : String, username = user ∧ password = pass ∧
        authorization = .basic user pass := by
  unfold Credentials.authorization?
  cases username <;> cases password <;> simp [CodeString.text?, eq_comm]

/-- The credentials hold what no header can: a token has a character beyond ASCII, or a user name
or a password is no text. -/
def IsUnsendable : Credentials → Prop
  | .basic username password => username.text? = none ∨ password.text? = none
  | .bearer token => ∃ code ∈ token.codes, 0x80 ≤ code

theorem isUnsendable_of_authorization? {credentials : Credentials}
    (h : credentials.authorization? = none) : credentials.IsUnsendable := by
  cases credentials with
  | bearer token => cases h
  | basic username password =>
      cases username with
      | broken username => exact Or.inl rfl
      | text username =>
          cases password with
          | broken password => exact Or.inr rfl
          | text password => cases h

end Credentials

namespace PropertyMap

/-- The properties of an adapter with the given values. -/
def holding (username password : Option CodeString) : PropertyMap :=
  ⟨[(usernameKey, ⟨usernameKey, true, false, username⟩),
    (passwordKey, ⟨passwordKey, true, true, password⟩)]⟩

theorem credentials_eq_holding : credentials = holding none none := rfl

/-! ## Giving values -/

/-- The value under a name after giving values in order. -/
def assigned (name : String) (old : Option CodeString)
    (values : List (String × Option CodeString)) :
    Option CodeString :=
  values.foldl (fun old pair => if pair.1 = name then pair.2 else old) old

theorem usernameKey_ne_passwordKey : usernameKey ≠ passwordKey := by decide

theorem set_holding (username password : Option CodeString) (name : String)
    (value : Option CodeString) :
    (holding username password).set name value =
      holding (if name = usernameKey then value else username)
        (if name = passwordKey then value else password) := by
  unfold set holding
  simp only [List.map_cons, List.map_nil]
  by_cases hname : name = usernameKey
  · subst hname
    simp [usernameKey_ne_passwordKey, usernameKey_ne_passwordKey.symm]
  · by_cases hpassword : name = passwordKey
    · subst hpassword
      simp [usernameKey_ne_passwordKey, usernameKey_ne_passwordKey.symm]
    · simp [hname, hpassword, Ne.symm hname, Ne.symm hpassword]

theorem setValues_holding (username password : Option CodeString)
    (values : List (String × Option CodeString)) :
    (holding username password).setValues values =
      holding (assigned usernameKey username values) (assigned passwordKey password values) := by
  unfold setValues assigned
  induction values generalizing username password with
  | nil => rfl
  | cons pair values ih =>
      rw [List.foldl_cons, set_holding, ih]
      rfl

/-! ## Reading values -/

theorem value?_username_holding (username password : Option CodeString) :
    (holding username password).value? usernameKey = username := rfl

theorem value?_password_holding (username password : Option CodeString) :
    (holding username password).value? passwordKey = password := rfl

theorem missing_holding (username password : Option CodeString) :
    (holding username password).missing =
      (if Property.isFilled ⟨usernameKey, true, false, username⟩ then [] else [usernameKey]) ++
        (if Property.isFilled ⟨passwordKey, true, true, password⟩ then []
          else [passwordKey]) := by
  unfold missing properties holding
  simp only [List.map_cons, List.map_nil, List.filter_cons, List.filter_nil, Bool.true_and]
  split <;> split <;> simp_all

theorem missing_holding_eq_nil_iff {username password : Option CodeString} :
    (holding username password).missing = [] ↔
      (∃ text, username = some text ∧ text ≠ "") ∧ ∃ text, password = some text ∧ text ≠ "" := by
  have husername : _ ↔ ∃ text, username = some text ∧ text ≠ "" :=
    Property.isFilled_iff_hasText ⟨usernameKey, true, false, username⟩
  have hpassword : _ ↔ ∃ text, password = some text ∧ text ≠ "" :=
    Property.isFilled_iff_hasText ⟨passwordKey, true, true, password⟩
  rw [missing_holding, List.append_eq_nil_iff, ← husername, ← hpassword]
  constructor
  · rintro ⟨hfirst, hsecond⟩
    exact ⟨by simpa using hfirst, by simpa using hsecond⟩
  · rintro ⟨hfirst, hsecond⟩
    rw [if_pos hfirst, if_pos hsecond]
    exact ⟨rfl, rfl⟩

end PropertyMap

namespace Bridge.Adapter

open PropertyMap (holding)

variable {adapter : Adapter} {authorization : Authorization}

theorem authorization_eq_ok_iff_of_credentials :
    adapter.authorization = .ok authorization ↔
      ∃ credentials, adapter.credentials = .ok credentials ∧
        credentials.authorization? = some authorization := by
  unfold Adapter.authorization
  cases adapter.credentials with
  | error error => simp
  | ok credentials =>
      dsimp only
      cases hencoded : credentials.authorization? <;> simp [hencoded]

/-- There are no credentials, or they cannot be encoded. -/
theorem authorization_eq_error_iff {failure : Failure} :
    adapter.authorization = .error failure ↔
      (∃ error, adapter.credentials = .error error ∧ failure = .reported error) ∨
      ∃ credentials, adapter.credentials = .ok credentials ∧
        credentials.authorization? = none ∧ failure = .headerEncoding := by
  unfold Adapter.authorization
  cases adapter.credentials with
  | error error => simp [eq_comm]
  | ok credentials =>
      dsimp only
      cases hencoded : credentials.authorization? <;> simp [hencoded, eq_comm]

variable {username password : Option CodeString}

/-- Without an override a connection uses the values of both properties, once each of them
has one that is not empty. -/
theorem credentials_eq_ok_iff {credentials : Credentials} (hoverride : adapter.override = none)
    (hproperties : adapter.properties = holding username password) :
    adapter.credentials = .ok credentials ↔
      ∃ user pass, (username = some user ∧ user ≠ "") ∧ (password = some pass ∧ pass ≠ "") ∧
        credentials = .basic user pass := by
  unfold Adapter.credentials
  rw [hoverride, hproperties]
  dsimp only
  by_cases hmissing : (holding username password).missing = []
  · rw [hmissing]
    obtain ⟨⟨user, rfl, huser⟩, pass, rfl, hpass⟩ :=
      PropertyMap.missing_holding_eq_nil_iff.mp hmissing
    constructor
    · intro h
      cases h
      exact ⟨user, pass, ⟨rfl, huser⟩, ⟨rfl, hpass⟩, rfl⟩
    · rintro ⟨_, _, ⟨heq, -⟩, ⟨heq', -⟩, rfl⟩
      cases heq
      cases heq'
      rfl
  · rw [if_neg (by simpa using hmissing)]
    constructor
    · intro h
      cases h
    · rintro ⟨user, pass, huser, hpass, -⟩
      exact absurd (PropertyMap.missing_holding_eq_nil_iff.mpr ⟨⟨user, huser⟩, pass, hpass⟩)
        hmissing

/-- The values must be texts to be encoded. -/
theorem authorization_eq_ok_iff (hoverride : adapter.override = none)
    (hproperties : adapter.properties = holding username password) :
    adapter.authorization = .ok authorization ↔
      ∃ user pass : String, (username = some (.text user) ∧ user ≠ "") ∧
        (password = some (.text pass) ∧ pass ≠ "") ∧ authorization = .basic user pass := by
  rw [authorization_eq_ok_iff_of_credentials]
  simp only [credentials_eq_ok_iff hoverride hproperties]
  constructor
  · rintro ⟨_, ⟨username, password, ⟨rfl, huser⟩, ⟨rfl, hpass⟩, rfl⟩, hencoded⟩
    obtain ⟨user, pass, rfl, rfl, rfl⟩ := Credentials.authorization?_basic_eq_some_iff.mp hencoded
    exact ⟨user, pass, ⟨rfl, mt (congrArg CodeString.text) huser⟩,
      ⟨rfl, mt (congrArg CodeString.text) hpass⟩, rfl⟩
  · rintro ⟨user, pass, ⟨rfl, huser⟩, ⟨rfl, hpass⟩, rfl⟩
    exact ⟨_, ⟨user, pass, ⟨rfl, mt CodeString.text.inj huser⟩,
      ⟨rfl, mt CodeString.text.inj hpass⟩, rfl⟩, rfl⟩

end Bridge.Adapter

end QueryBridge
