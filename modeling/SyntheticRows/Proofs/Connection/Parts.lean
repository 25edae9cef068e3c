import SyntheticRows.Proofs.Connection.Redaction
import SyntheticRows.Proofs.Text.Numeral
/-!
# Masking recovers the parts of a connection

A connection text is put together from a scheme, a login, a host, a port, a database and a query,
each of which but the scheme and the host may be absent. The marks between the parts are found
again, because no part holds the mark that ends it: passwords may hold slashes, colons and at signs,
since they end at the last at sign of all. So the parts are told as they were put in, and the masked
text is put together from the same parts with the secrets starred out.
-/

namespace SyntheticRows

open Text

/-- A text that holds none of the marks. -/
abbrev TextWithout (marks : List Char) : Type :=
  { text : String // ∀ mark ∈ marks, mark ∉ text.toList }

/-- A text that is not empty. -/
def nonEmpty? (text : String) : Option String :=
  if text = "" then none else some text

structure Login where
  user : TextWithout [':', '/', '@', '?']
  password : Option (TextWithout ['?'])

/-- A parameter of a query; without an equals sign it is a key alone. -/
structure QueryParameter where
  key : TextWithout ['=', '&']
  value : Option (TextWithout ['&'])

structure ConnectionParts where
  scheme : TextWithout [':', '?']
  login : Option Login
  host : TextWithout [':', '/', '@', '?']
  port : Option UInt16
  database : Option (TextWithout ['@', '?'])
  query : Option (List QueryParameter)

namespace Login

def text (login : Login) : String :=
  login.user.val ++ login.password.elim "" (":" ++ ·.val) ++ "@"

def masked (login : Login) : Login :=
  { login with password := login.password.map fun _ => ⟨"***", by simp⟩ }

end Login

namespace QueryParameter

def text (parameter : QueryParameter) : String :=
  parameter.key.val ++ parameter.value.elim "" ("=" ++ ·.val)

/-- Keys of secrets are told whatever the case of their ASCII letters. -/
def IsSecret (parameter : QueryParameter) : Prop :=
  parameter.key.val.toLower ∈ ["password", "pass", "token", "sslpassword"]

instance (parameter : QueryParameter) : Decidable parameter.IsSecret :=
  inferInstanceAs (Decidable (_ ∈ _))

def masked (parameter : QueryParameter) : QueryParameter :=
  if parameter.IsSecret then
    { parameter with value := parameter.value.map fun _ => ⟨"***", by simp⟩ }
  else parameter

end QueryParameter

namespace ConnectionParts

/-- The text behind the credentials and in front of the query. -/
def target (parts : ConnectionParts) : String :=
  parts.host.val ++ parts.port.elim "" (":" ++ toString ·) ++ parts.database.elim "" ("/" ++ ·.val)

/-- The text in front of the query. -/
def base (parts : ConnectionParts) : String :=
  parts.scheme.val ++ "://" ++ parts.login.elim "" Login.text ++ parts.target

def text (parts : ConnectionParts) : String :=
  parts.base ++ parts.query.elim "" fun parameters =>
    "?" ++ "&".intercalate (parameters.map QueryParameter.text)

/-- The parts with the password and the values of secret parameters starred out. -/
def masked (parts : ConnectionParts) : ConnectionParts :=
  { parts with
    login := parts.login.map Login.masked
    query := parts.query.map (List.map QueryParameter.masked) }

end ConnectionParts

namespace Redaction

open ConnectionParts

/-! ### The query -/

theorem isSensitiveKey_iff (parameter : QueryParameter) :
    isSensitiveKey parameter.key.val.toList = true ↔ parameter.IsSecret := by
  have hlower : lowerAscii parameter.key.val.toList = parameter.key.val.toLower.toList :=
    String.toList_map.symm
  rw [isSensitiveKey, hlower, List.any_eq_true, QueryParameter.IsSecret]
  simp only [beq_iff_eq, String.toList_inj]
  exact ⟨fun ⟨name, hmem, heq⟩ => heq ▸ hmem, fun hmem => ⟨_, hmem, rfl⟩⟩

theorem maskParameter_text (parameter : QueryParameter) :
    maskParameter parameter.text.toList = parameter.masked.text.toList := by
  have hkey : '=' ∉ parameter.key.val.toList := parameter.key.property '=' (by simp)
  have hsecret := isSensitiveKey_iff parameter
  cases hvalue : parameter.value with
  | none =>
      have htext : parameter.text = parameter.key.val := by
        simp [QueryParameter.text, hvalue]
      have hmasked : parameter.masked.text = parameter.key.val := by
        unfold QueryParameter.masked
        split <;> simp [QueryParameter.text, hvalue]
      rw [htext, hmasked, maskParameter, cutFirst_eq_none_iff.mpr hkey]
  | some value =>
      have htext : parameter.text.toList = parameter.key.val.toList ++ '=' :: value.val.toList := by
        simp [QueryParameter.text, hvalue]
      rw [htext, maskParameter, cutFirst_append_cons hkey, QueryParameter.masked]
      by_cases h : parameter.IsSecret
      · simp [h, hsecret.mpr h, QueryParameter.text, hvalue, mask]
      · simp [h, hsecret.not.mpr h, htext]

theorem ampersand_notMem_text (parameter : QueryParameter) : '&' ∉ parameter.text.toList := by
  have hkey : '&' ∉ parameter.key.val.toList := parameter.key.property '&' (by simp)
  cases hvalue : parameter.value with
  | none => simpa [QueryParameter.text, hvalue] using hkey
  | some value =>
      have hfree : '&' ∉ value.val.toList := value.property '&' (by simp)
      simp [QueryParameter.text, hvalue, hkey, hfree]

/-- A query is masked parameter by parameter, in their order. -/
theorem maskQuery_intercalate (parameters : List QueryParameter) :
    maskQuery ("&".intercalate (parameters.map QueryParameter.text)).toList =
      ("&".intercalate (parameters.map fun parameter => parameter.masked.text)).toList := by
  have hjoin : ∀ text : QueryParameter → String,
      ("&".intercalate (parameters.map text)).toList =
        joinWith ['&'] (parameters.map fun parameter => (text parameter).toList) := by
    intro text
    rw [String.toList_intercalate, List.map_map]
    rfl
  rw [hjoin, hjoin]
  cases parameters with
  | nil => rfl
  | cons first parameters =>
      have hsplit : splitAtEach '&' (joinWith ['&']
          ((first :: parameters).map fun parameter => parameter.text.toList)) =
          (first :: parameters).map fun parameter => parameter.text.toList := by
        refine splitAtEach_eq_iff.mpr ⟨by simp, ?_, rfl⟩
        exact List.forall_mem_map.mpr fun parameter _ => ampersand_notMem_text parameter
      rw [maskQuery, hsplit, List.map_map]
      exact congrArg _ (List.map_congr_left fun parameter _ => maskParameter_text parameter)

/-! ### The target -/

theorem present?_toList (text : String) : present? text.toList = nonEmpty? text := by
  simp [present?, nonEmpty?]

theorem port?_decimal (port : UInt16) : port? (decimal port.toNat) = some port := by
  have hvalue : decimalValue (decimal port.toNat) = port.toNat := decimalValue_toDigits port.toNat
  rw [port?, hvalue]
  simp only [port.toNat_lt_size, if_true, Nat.toUInt16_eq, UInt16.ofNat_toNat]

theorem notMem_decimal {c : Char} (h : c.isDigit = false) (n : Nat) : c ∉ decimal n := by
  intro hmem
  rw [isDigit_of_mem_decimal hmem] at h
  cases h

/-- The text of a host with its port. -/
def hostPort (parts : ConnectionParts) : List Char :=
  parts.host.val.toList ++ parts.port.elim [] (':' :: decimal ·.toNat)

theorem splitHost_hostPort (parts : ConnectionParts) :
    splitHost (hostPort parts) = (nonEmpty? parts.host.val, parts.port) := by
  have hcolon : ':' ∉ parts.host.val.toList := parts.host.property ':' (by simp)
  unfold hostPort
  cases parts.port with
  | none =>
      rw [Option.elim_none, List.append_nil, splitHost, cutLast_eq_none hcolon, present?_toList]
  | some port =>
      have hport : ':' ∉ decimal port.toNat := notMem_decimal (by decide) _
      have hnumeral : isNumeral (decimal port.toNat) = true := isNumeral_toDigits port.toNat
      rw [Option.elim_some, splitHost, cutLast_append_cons_of_notMem hport]
      simp only [hnumeral, if_true, port?_decimal, present?_toList]

theorem notMem_hostPort {parts : ConnectionParts} {c : Char} (hhost : c ∉ parts.host.val.toList)
    (hdigit : c.isDigit = false) (hcolon : c ≠ ':') : c ∉ hostPort parts := by
  unfold hostPort
  cases parts.port with
  | none => simpa using hhost
  | some port => simp [hhost, hcolon, notMem_decimal hdigit]

theorem toList_target (parts : ConnectionParts) :
    parts.target.toList =
      hostPort parts ++ parts.database.elim [] ('/' :: ·.val.toList) := by
  have hdigits : ∀ port : UInt16, (toString port).toList = decimal port.toNat := fun port =>
    Nat.toList_repr
  unfold ConnectionParts.target hostPort
  cases parts.port <;> cases parts.database <;> simp [hdigits]

theorem cutFirst_target (parts : ConnectionParts) :
    (cutFirst '/' parts.target.toList).getD (parts.target.toList, []) =
      (hostPort parts, parts.database.elim [] (·.val.toList)) := by
  have hslash : '/' ∉ hostPort parts :=
    notMem_hostPort (parts.host.property '/' (by simp)) (by decide) (by decide)
  rw [toList_target]
  cases parts.database with
  | none => rw [Option.elim_none, List.append_nil, cutFirst_eq_none_iff.mpr hslash]; rfl
  | some database => rw [Option.elim_some, cutFirst_append_cons hslash]; rfl

theorem notMem_target {parts : ConnectionParts} {c : Char} (hhost : c ∉ parts.host.val.toList)
    (hdatabase : ∀ database ∈ parts.database, c ∉ database.val.toList)
    (hdigit : c.isDigit = false) (hcolon : c ≠ ':') (hslash : c ≠ '/') :
    c ∉ parts.target.toList := by
  have hfront := notMem_hostPort hhost hdigit hcolon
  rw [toList_target]
  cases hparts : parts.database with
  | none => simpa using hfront
  | some database => simp [hfront, hslash, hdatabase database hparts]

/-! ### The credentials -/

/-- The text of the login in front of its at sign. -/
def credentialsText (login : Login) : List Char :=
  login.user.val.toList ++ login.password.elim [] (':' :: ·.val.toList)

theorem toList_loginText (login : Login) : login.text.toList = credentialsText login ++ ['@'] := by
  unfold Login.text credentialsText
  cases login.password <;> simp

theorem isCredentials_credentialsText (login : Login) :
    isCredentials (credentialsText login) = true := by
  have hcolon : ':' ∉ login.user.val.toList := login.user.property ':' (by simp)
  have hslash : '/' ∉ login.user.val.toList := login.user.property '/' (by simp)
  unfold credentialsText
  cases login.password with
  | none =>
      rw [Option.elim_none, List.append_nil, isCredentials, cutFirst_eq_none_iff.mpr hcolon]
      simpa using hslash
  | some password =>
      rw [Option.elim_some, isCredentials, cutFirst_append_cons hcolon]
      simpa using hslash

theorem maskCredentials_credentialsText (login : Login) :
    maskCredentials (credentialsText login) =
      (login.user.val.toList, login.masked.text.toList) := by
  have hcolon : ':' ∉ login.user.val.toList := login.user.property ':' (by simp)
  unfold credentialsText
  cases hpassword : login.password with
  | none =>
      rw [Option.elim_none, List.append_nil, maskCredentials, cutFirst_eq_none_iff.mpr hcolon]
      simp [Login.masked, Login.text, hpassword]
  | some password =>
      rw [Option.elim_some, maskCredentials_append hcolon]
      simp [Login.masked, Login.text, hpassword, mask]

theorem splitCredentials_login (parts : ConnectionParts) :
    splitCredentials ((parts.login.elim "" Login.text).toList ++ parts.target.toList) =
      (parts.login.map credentialsText, parts.target.toList) := by
  have hat : '@' ∉ parts.target.toList :=
    notMem_target (parts.host.property '@' (by simp))
      (fun database _ => database.property '@' (by simp)) (by decide) (by decide) (by decide)
  cases parts.login with
  | none =>
      have hnone : splitCredentials parts.target.toList = (none, parts.target.toList) := by
        rw [splitCredentials, cutLast_eq_none hat]
      exact hnone
  | some login =>
      rw [Option.elim_some, toList_loginText, List.append_assoc, Option.map_some]
      exact splitCredentials_append (isCredentials_credentialsText login) hat

/-! ### The part in front of the query -/

theorem parts_redactBase {base scheme rest target hostPort path : List Char}
    {credentials : Option (List Char)}
    (hcut : cutFirstText "://".toList base = some (scheme, rest))
    (hsplit : splitCredentials rest = (credentials, target))
    (hpath : (cutFirst '/' target).getD (target, []) = (hostPort, path)) :
    (redactBase base).1 =
      { engine := some (String.ofList scheme)
        user := (credentials.map maskCredentials).map (String.ofList ·.1)
        host := (splitHost hostPort).1
        port := (splitHost hostPort).2
        database := present? path
        redacted := "" } := by
  simp only [redactBase, hcut, hsplit, hpath]

theorem redactBase_base (parts : ConnectionParts) :
    redactBase parts.base.toList =
      ({ engine := some parts.scheme.val
         user := parts.login.map (·.user.val)
         host := nonEmpty? parts.host.val
         port := parts.port
         database := parts.database.bind (nonEmpty? ·.val)
         redacted := "" }, parts.masked.base.toList) := by
  have hscheme : ':' ∉ parts.scheme.val.toList := parts.scheme.property ':' (by simp)
  have hbase : parts.base.toList = parts.scheme.val.toList ++ ("://".toList ++
      ((parts.login.elim "" Login.text).toList ++ parts.target.toList)) := by
    simp [base]
  have hcut : cutFirstText "://".toList parts.base.toList = some (parts.scheme.val.toList,
      (parts.login.elim "" Login.text).toList ++ parts.target.toList) := by
    rw [hbase]
    exact cutFirstText_append hscheme _
  have hsplit := splitCredentials_login parts
  refine Prod.ext ?_ ?_
  · rw [parts_redactBase hcut hsplit (cutFirst_target parts), splitHost_hostPort]
    have huser : ((parts.login.map credentialsText).map maskCredentials).map
        (String.ofList ·.1) = parts.login.map (·.user.val) := by
      rw [Option.map_map, Option.map_map]
      refine congrArg (parts.login.map ·) (funext fun login => ?_)
      simp [maskCredentials_credentialsText]
    have hdatabase : present? (parts.database.elim [] (·.val.toList)) =
        parts.database.bind (nonEmpty? ·.val) := by
      cases parts.database with
      | none => rfl
      | some database => exact present?_toList database.val
    rw [huser, hdatabase, String.ofList_toList]
  · rw [text_redactBase hcut hsplit]
    cases hlogin : parts.login with
    | none => simp [base, masked, hlogin, target]
    | some login => simp [base, masked, hlogin, target, maskCredentials_credentialsText]

theorem question_notMem_base (parts : ConnectionParts) : '?' ∉ parts.base.toList := by
  have hscheme : '?' ∉ parts.scheme.val.toList := parts.scheme.property '?' (by simp)
  have htarget : '?' ∉ parts.target.toList :=
    notMem_target (parts.host.property '?' (by simp))
      (fun database _ => database.property '?' (by simp)) (by decide) (by decide) (by decide)
  have hlogin : '?' ∉ (parts.login.elim "" Login.text).toList := by
    cases parts.login with
    | none => simp
    | some login =>
        have huser : '?' ∉ login.user.val.toList := login.user.property '?' (by simp)
        rw [Option.elim_some, toList_loginText, credentialsText]
        cases login.password with
        | none => simp [huser]
        | some password =>
            have hpassword : '?' ∉ password.val.toList := password.property '?' (by simp)
            simp [huser, hpassword]
  simp [base, hscheme, hlogin, htarget]

end Redaction

/-- **Masking recovers the parts.** Of a connection that is put together from its parts, masking
tells the scheme, the user and the port as they are, and the host and the database unless they are
empty. The masked text is put together from the same parts, but for the password and the values of
secret parameters, for which stars stand. -/
theorem redactConnection_recovers_parts (parts : ConnectionParts) :
    redactConnection parts.text =
      { engine := some parts.scheme.val
        user := parts.login.map (·.user.val)
        host := nonEmpty? parts.host.val
        port := parts.port
        database := parts.database.bind (nonEmpty? ·.val)
        redacted := parts.masked.text } := by
  have hbase := Redaction.redactBase_base parts
  have hquestion := Redaction.question_notMem_base parts
  cases hquery : parts.query with
  | none =>
      have htext : parts.text = parts.base := by simp [ConnectionParts.text, hquery]
      have hmasked : parts.masked.text = parts.masked.base := by
        simp [ConnectionParts.text, ConnectionParts.masked, hquery]
      rw [redactConnection, htext, hmasked, cutFirst_eq_none_iff.mpr hquestion]
      simp only [hbase, String.ofList_toList]
  | some parameters =>
      have htext : parts.text.toList = parts.base.toList ++
          '?' :: ("&".intercalate (parameters.map QueryParameter.text)).toList := by
        simp [ConnectionParts.text, hquery]
      have hmasked : parts.masked.text.toList = parts.masked.base.toList ++
          '?' :: ("&".intercalate
            (parameters.map fun parameter => parameter.masked.text)).toList := by
        simp [ConnectionParts.text, ConnectionParts.masked, hquery, Function.comp_def]
      rw [redactConnection, htext, cutFirst_append_cons hquestion]
      simp only [hbase, Redaction.maskQuery_intercalate, ← hmasked, String.ofList_toList]

example :
    let parts : ConnectionParts :=
      { scheme := ⟨"postgres", by simp⟩
        login := some ⟨⟨"u", by simp⟩, some ⟨"p/a:s@s", by simp⟩⟩
        host := ⟨"h", by simp⟩
        port := some 5433
        database := some ⟨"db", by simp⟩
        query := some [⟨⟨"Token", by simp⟩, some ⟨"a=b", by simp⟩⟩, ⟨⟨"flag", by simp⟩, none⟩] }
    parts.text = "postgres://u:p/a:s@s@h:5433/db?Token=a=b&flag" ∧
      parts.masked.text = "postgres://u:***@h:5433/db?Token=***&flag" := by
  decide +kernel

end SyntheticRows
