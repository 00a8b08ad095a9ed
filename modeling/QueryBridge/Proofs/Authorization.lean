import Mathlib.Tactic.IntervalCases
import QueryBridge.Authorization
import QueryBridge.Proofs.Lists
import QueryBridge.Proofs.Log.Coverage
import QueryBridge.Proofs.Text.Base64
import QueryBridge.Proofs.Text.Split

/-!
# Credentials in the Basic scheme

The header carries the credentials behind the name of the scheme, in base 64.  A user name without
a colon ends at the first colon of the text that is read back, so the header says which
credentials it was made from, and nothing of them is left when the secrets are masked.
-/

namespace QueryBridge.Authorization

open QueryBridge.Log (Redactor byLength maskSecret redactCodes star)
open QueryBridge.Text.Base64 (IsPadded)

/-- What a server reads from a token: the user name in front of the first colon, and the
password behind it. -/
def credentials? (token : String) : Option (String × String) := do
  let bytes ← Text.Base64.decode? token.toList
  let text ← Text.Utf8.decode? bytes
  let parts := Text.cutAt ':' text
  return (String.ofList parts.1, String.ofList parts.2)

variable {username password : String}

/-! ## The token -/

theorem toList_basicToken (username password : String) :
    (basicToken username password).toList =
      Text.Base64.encode (Text.Utf8.encode (username.toList ++ ':' :: password.toList)) :=
  String.toList_ofList

theorem isPadded_basicToken (username password : String) :
    IsPadded (basicToken username password).toList := by
  rw [toList_basicToken]
  exact Text.Base64.isPadded_encode _

theorem text_of_basicToken {bytes : List UInt8}
    (h : Text.Base64.decode? (basicToken username password).toList = some bytes) :
    Text.Utf8.decode? bytes = some (username.toList ++ ':' :: password.toList) := by
  rw [toList_basicToken, Text.Base64.decode?_encode] at h
  cases h
  exact Text.Utf8.decode?_encode _

theorem credentials?_basicToken (h : ':' ∉ username.toList) (password : String) :
    credentials? (basicToken username password) = some (username, password) := by
  simp only [credentials?, toList_basicToken, Text.Base64.decode?_encode,
    Text.Utf8.decode?_encode, Option.bind_eq_bind, Option.bind_some, Text.cutAt_append_cons h,
    String.ofList_toList, pure]

/-- The token is longer than the password. -/
theorem length_lt_length_basicToken (username password : String) :
    password.toList.length < (basicToken username password).toList.length := by
  have hbytes := Text.Base64.length_le_length_encode
    (Text.Utf8.encode (username.toList ++ ':' :: password.toList))
  have hchars := Text.Utf8.length_le_length_encode (username.toList ++ ':' :: password.toList)
  rw [List.length_append, List.length_cons] at hchars
  rw [toList_basicToken]
  omega

theorem four_le_length_basicToken (username password : String) :
    4 ≤ (basicToken username password).toList.length := by
  have hlength := (isPadded_basicToken username password).length_mod
  have hlonger := length_lt_length_basicToken username password
  omega

/-! ## Masking -/

/-- The token does not begin inside of the name of the scheme. -/
theorem not_prefix_of_scheme {k : Nat} (hk : k < 6) :
    ¬ (basicToken username password).toList <+:
      "Basic ".toList.drop k ++ (basicToken username password).toList := by
  intro hbegins
  have hpadded := isPadded_basicToken username password
  have hlong := four_le_length_basicToken username password
  have hlength := hpadded.length_mod
  have hread : ∀ {bytes}, Text.Base64.decode? (basicToken username password).toList = some bytes →
      ∃ text, Text.Utf8.decode? bytes = some text ∧ ':' ∈ text := fun hbytes =>
    ⟨_, text_of_basicToken hbytes, List.mem_append_right _ List.mem_cons_self⟩
  generalize (basicToken username password).toList = token at *
  -- it holds no blank, so it lies in front of the one behind the scheme
  have hsplit : "Basic ".toList.drop k ++ token = "Basic".toList.drop k ++ ' ' :: token := by
    interval_cases k <;> rfl
  have hinside : token <+: "Basic".toList.drop k := by
    rw [hsplit] at hbegins
    exact prefix_of_prefix_append_cons hpadded.not_mem_blank hbegins
  have hshort : token.length ≤ 5 - k := by
    simpa using hinside.length_le
  have hfour : token.length = 4 := by omega
  have hend : token = ("Basic".toList.drop k).take 4 := by
    rw [List.prefix_iff_eq_take.mp hinside, hfour]
  -- two parts of the name are that long, and what they encode holds no colon
  have hstart : k = 0 ∨ k = 1 := by omega
  rcases hstart with rfl | rfl
  · obtain ⟨text, htext, -⟩ := @hread [5, 171, 34] (by rw [hend]; rfl)
    have hbroken : Text.Utf8.decode? [5, 171, 34] = none := by rfl
    rw [hbroken] at htext
    cases htext
  · obtain ⟨text, htext, hcolon⟩ := @hread [106, 200, 156] (by rw [hend]; rfl)
    have hletters : Text.Utf8.decode? [106, 200, 156] = some ['j', 'Ȝ'] := by rfl
    rw [hletters] at htext
    cases htext
    exact absurd hcolon (by decide)

theorem header_basic (username password : String) :
    (basic username password).header = .text ("Basic " ++ basicToken username password) := rfl

theorem maskSecret_header (username password : String) :
    maskSecret (CodeString.text (basicToken username password)).codes
        (basic username password).header.codes =
      (CodeString.text "Basic ***").codes := by
  have hne : (CodeString.text (basicToken username password)).codes ≠ [] := by
    have hlong := four_le_length_basicToken username password
    rw [CodeString.codes_text, Ne, List.map_eq_nil_iff]
    intro hnil
    rw [hnil] at hlong
    exact absurd hlong (by decide)
  rw [Log.maskSecret_of_ne_nil hne, header_basic, CodeString.codes_text, CodeString.codes_text,
    String.toList_append, List.map_append, Log.maskFrom_append_self]
  · rfl
  · rwa [CodeString.codes_text] at hne
  · intro k hk hbegins
    rw [← List.map_drop, ← List.map_append, CodeString.map_toNat_prefix_iff] at hbegins
    exact not_prefix_of_scheme hk hbegins

/-- The token is masked before the password. -/
theorem byLength_secrets (username password : String) :
    byLength [password, basicToken username password] =
      [↑(basicToken username password), ↑password] := by
  have hlonger := length_lt_length_basicToken username password
  rw [String.length_toList, String.length_toList] at hlonger
  have hnot : ¬ (basicToken username password).length ≤ password.length := by omega
  simp [byLength, List.mergeSort, hnot]

theorem secrets_add_secrets (username password : String) :
    (Redactor.empty.add (basic username password).secrets).secrets =
      (Redactor.empty.add [password]).secrets ++ [.text (basicToken username password)] := by
  have hlonger := length_lt_length_basicToken username password
  have hlong := four_le_length_basicToken username password
  rw [String.length_toList] at hlong
  have hother : basicToken username password ≠ password := by
    intro heq
    rw [heq] at hlonger
    omega
  have hnot : ¬ (basicToken username password).length < Redactor.minLength := by
    simpa [Redactor.minLength] using hlong
  by_cases hshort : password.length < Redactor.minLength <;>
    simp [secrets, Redactor.add, Redactor.insert, Redactor.empty, hshort, hnot, hother]

/-- A redactor with the secrets leaves of the header what it would leave of one whose token is
masked already. -/
theorem redact_header (username password : String) :
    (Redactor.empty.add (basic username password).secrets).redact
        (basic username password).header =
      (Redactor.empty.add [password]).redact "Basic ***" := by
  unfold Redactor.redact Log.redact redactCodes
  rw [secrets_add_secrets]
  by_cases hshort : password.length < Redactor.minLength
  · have hnone : (Redactor.empty.add [password]).secrets = [] := by
      simp [Redactor.add, Redactor.insert, Redactor.empty, hshort]
    rw [hnone, List.nil_append]
    simp [byLength, maskSecret_header, -CodeString.codes_text]
  · have hheld : (Redactor.empty.add [password]).secrets = [↑password] := by
      simp [Redactor.add, Redactor.insert, Redactor.empty, hshort]
    rw [hheld, List.singleton_append, byLength_secrets, List.foldl_cons, maskSecret_header]
    simp [byLength]

/-! ## The header -/

theorem append_right_cancel {front first second : String} (h : front ++ first = front ++ second) :
    first = second := by
  have hchars := congrArg String.toList h
  rw [String.toList_append, String.toList_append] at hchars
  exact String.toList_inj.mp (List.append_cancel_left hchars)

/-- The header is the name of the scheme with a token in base 64 behind it, from which a server
reads the credentials back, so that different credentials have different headers.  The token is a
secret of the authorization: a redactor that knows the secrets leaves the token in no text, and
nothing of it in the header. -/
theorem basic_header_carries_credentials (username password : String)
    (h : ':' ∉ username.toList) :
    ∃ token : String,
      (basic username password).header = .text ("Basic " ++ token) ∧
      IsPadded token.toList ∧ ' ' ∉ token.toList ∧
      credentials? token = some (username, password) ∧
      (∀ username' password', ':' ∉ username'.toList →
        (basic username' password').header = (basic username password).header →
          username' = username ∧ password' = password) ∧
      (basic username password).secrets = [↑password, ↑token] ∧
      (∀ (redactor : Redactor) (text : CodeString), redactor.IsProper →
        ¬ (CodeString.text token).codes <:+:
          ((redactor.add (basic username password).secrets).redact text).codes) ∧
      (Redactor.empty.add (basic username password).secrets).redact
          (basic username password).header =
        (Redactor.empty.add [password]).redact "Basic ***" := by
  have hpadded := isPadded_basicToken username password
  have hread := credentials?_basicToken h password
  refine ⟨basicToken username password, rfl, hpadded, hpadded.not_mem_blank, hread, ?_, rfl, ?_,
    redact_header username password⟩
  · intro username' password' h' hheader
    have htoken : basicToken username' password' = basicToken username password :=
      append_right_cancel (CodeString.text.inj hheader)
    have hsame := credentials?_basicToken h' password'
    rw [htoken, hread] at hsame
    cases hsame
    exact ⟨rfl, rfl⟩
  · intro redactor text hproper
    have hlong := four_le_length_basicToken username password
    rw [String.length_toList] at hlong
    rw [← CodeString.length_text] at hlong
    refine (hproper.add _).not_infix_redact (Log.Redactor.mem_secrets_add.mpr (Or.inr ⟨?_, hlong⟩))
      ?_ text
    · exact List.mem_cons_of_mem _ List.mem_cons_self
    · exact mt CodeString.toNat_mem_codes_text.mp hpadded.not_mem_star

/-- A password may hold colons and characters beyond ASCII. -/
theorem colons_in_password_are_read_back :
    ':' ∉ "al ice".toList ∧
      credentials? (basicToken "al ice" "p:ä:") = some ("al ice", "p:ä:") ∧
      (basic "al ice" "p:ä:").header = "Basic YWwgaWNlOnA6w6Q6" := by
  have hname : ':' ∉ "al ice".toList := by decide
  have htext : (basic "al ice" "p:ä:").header = "Basic YWwgaWNlOnA6w6Q6" := by decide +kernel
  obtain ⟨token, hheader, -, -, hread, -⟩ := basic_header_carries_credentials "al ice" "p:ä:" hname
  have htoken : basicToken "al ice" "p:ä:" = token :=
    append_right_cancel (CodeString.text.inj hheader)
  exact ⟨hname, htoken ▸ hread, htext⟩

end QueryBridge.Authorization
