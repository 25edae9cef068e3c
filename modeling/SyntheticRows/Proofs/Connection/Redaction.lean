import SyntheticRows.Connection.Redaction
import SyntheticRows.Proofs.Text.Cut
/-!
# What a masked connection tells of the password

A password that holds no question mark leaves no trace: two connections that differ in nothing else
are masked alike, whatever other separators their passwords hold. The query is cut off first, at the
first question mark of the whole text. A question mark within the password moves that cut in front
of the at sign, so no credentials are found and what stands before the mark is written out.
-/

namespace SyntheticRows

open Text

namespace Redaction

variable {scheme user : List Char}

/-- The credentials begin with the user, and what follows them does not depend on the password. -/
theorem exists_splitCredentials (hcolon : ':' ∉ user) (hslash : '/' ∉ user) (rest : List Char) :
    ∃ target, ∀ password, ∃ hidden,
      splitCredentials (user ++ ':' :: (password ++ '@' :: rest)) =
        (some (user ++ ':' :: hidden), target) := by
  have hcredentials : ∀ hidden, isCredentials (user ++ ':' :: hidden) = true := by
    intro hidden
    rw [isCredentials, cutFirst_append_cons hcolon]
    simpa using hslash
  obtain ⟨target, htarget⟩ := exists_cutLast_append_cons '@' rest
  refine ⟨target, fun password => ?_⟩
  obtain ⟨hidden, hlast⟩ := htarget (user ++ ':' :: password)
  rw [List.append_assoc, List.append_assoc, List.cons_append, List.cons_append] at hlast
  refine ⟨password ++ hidden, ?_⟩
  rw [splitCredentials, hlast]
  exact if_pos (hcredentials (password ++ hidden))

theorem splitCredentials_append {credentials target : List Char}
    (hcredentials : isCredentials credentials = true) (hat : '@' ∉ target) :
    splitCredentials (credentials ++ '@' :: target) = (some credentials, target) := by
  rw [splitCredentials, cutLast_append_cons_of_notMem hat]
  exact if_pos hcredentials

theorem maskCredentials_append (hcolon : ':' ∉ user) (hidden : List Char) :
    maskCredentials (user ++ ':' :: hidden) = (user, user ++ ':' :: mask ++ ['@']) := by
  rw [maskCredentials, cutFirst_append_cons hcolon]

theorem redactBase_hides_password (hscheme : ':' ∉ scheme) (hcolon : ':' ∉ user)
    (hslash : '/' ∉ user) (password password' rest : List Char) :
    redactBase (scheme ++ ("://".toList ++ (user ++ ':' :: (password ++ '@' :: rest)))) =
      redactBase (scheme ++ ("://".toList ++ (user ++ ':' :: (password' ++ '@' :: rest)))) := by
  obtain ⟨target, htarget⟩ := exists_splitCredentials hcolon hslash rest
  obtain ⟨hidden, hsplit⟩ := htarget password
  obtain ⟨hidden', hsplit'⟩ := htarget password'
  have hcut : ∀ text, cutFirstText "://".toList (scheme ++ ("://".toList ++ text)) =
      some (scheme, text) := cutFirstText_append hscheme
  simp only [redactBase, hcut, hsplit, hsplit', Option.map_some, maskCredentials_append hcolon]

/-- The host with its port and the path make up the target again. -/
theorem hostPort_append_path (target : List Char) :
    let cut := (cutFirst '/' target).getD (target, [])
    cut.1 ++ (if target.contains '/' then '/' :: cut.2 else []) = target := by
  cases hcut : cutFirst '/' target with
  | none =>
      have hslash : '/' ∉ target := cutFirst_eq_none_iff.mp hcut
      simp [hslash]
  | some parts =>
      obtain ⟨htarget, -⟩ := cutFirst_eq_some_iff.mp hcut
      have hslash : '/' ∈ target := by simp [htarget]
      simp only [List.contains_iff_mem, hslash, if_true, Option.getD_some]
      exact htarget.symm

/-- Behind the scheme stand the masked credentials and the target as it was. -/
theorem text_redactBase {base rest target : List Char} {credentials : Option (List Char)}
    (hcut : cutFirstText "://".toList base = some (scheme, rest))
    (hsplit : splitCredentials rest = (credentials, target)) :
    (redactBase base).2 = scheme ++ ("://".toList ++
      (((credentials.map maskCredentials).map (·.2)).getD [] ++ target)) := by
  have htarget := hostPort_append_path target
  simp only [redactBase, hcut, hsplit, List.append_assoc]
  rw [htarget]

/-- Without credentials nothing is masked. -/
theorem redactBase_of_at_notMem (hscheme : ':' ∉ scheme) {target : List Char} (hat : '@' ∉ target) :
    (redactBase (scheme ++ ("://".toList ++ target))).2 = scheme ++ ("://".toList ++ target) := by
  have hcut : cutFirstText "://".toList (scheme ++ ("://".toList ++ target)) =
      some (scheme, target) := cutFirstText_append hscheme target
  have hsplit : splitCredentials target = (none, target) := by
    rw [splitCredentials, cutLast_eq_none hat]
  rw [text_redactBase hcut hsplit]
  rfl

end Redaction

/-- A connection text with credentials of a user and a password. -/
def connectionText (scheme user password rest : String) : String :=
  scheme ++ "://" ++ user ++ ":" ++ password ++ "@" ++ rest

theorem toList_connectionText (scheme user password rest : String) :
    (connectionText scheme user password rest).toList = scheme.toList ++ ("://".toList ++
      (user.toList ++ ':' :: (password.toList ++ '@' :: rest.toList))) := by
  simp [connectionText]

/-- **Masking hides the password.** Connections that differ in passwords without a question mark are
masked alike. -/
theorem redactConnection_hides_password {scheme user password password' : String} (rest : String)
    (hscheme : ':' ∉ scheme.toList ∧ '?' ∉ scheme.toList)
    (huser : ':' ∉ user.toList ∧ '/' ∉ user.toList ∧ '?' ∉ user.toList)
    (hpassword : '?' ∉ password.toList) (hpassword' : '?' ∉ password'.toList) :
    redactConnection (connectionText scheme user password rest) =
      redactConnection (connectionText scheme user password' rest) := by
  have hquery : ∀ {password : List Char}, '?' ∉ password →
      cutFirst '?' (scheme.toList ++ ("://".toList ++
        (user.toList ++ ':' :: (password ++ '@' :: rest.toList)))) =
      (cutFirst '?' rest.toList).map fun cut => (scheme.toList ++ ("://".toList ++
        (user.toList ++ ':' :: (password ++ '@' :: cut.1))), cut.2) := by
    intro password hpassword
    have hfront : '?' ∉ scheme.toList ++
        ("://".toList ++ (user.toList ++ ':' :: (password ++ ['@']))) := by
      simp [hscheme.2, huser.2.2, hpassword]
    have hcut := cutFirst_append_of_notMem hfront rest.toList
    simpa using hcut
  have hbase := Redaction.redactBase_hides_password hscheme.1 huser.1 huser.2.1 password.toList
    password'.toList
  rw [redactConnection, redactConnection, toList_connectionText, toList_connectionText,
    hquery hpassword, hquery hpassword']
  cases cutFirst '?' rest.toList with
  | none => simp only [Option.map_none, hbase]
  | some cut => simp only [Option.map_some, hbase]

/-- The separators of all other parts of a connection may stand in a password. -/
theorem redactConnection_hides_password_of_separators :
    redactConnection (connectionText "postgres" "u" "pa/s:s" "h:5433/db") =
      redactConnection (connectionText "postgres" "u" "p@ss&a=1" "h:5433/db") :=
  redactConnection_hides_password "h:5433/db" ⟨by decide, by decide⟩
    ⟨by decide, by decide, by decide⟩ (by decide) (by decide)

/-- What stands in a password in front of a question mark is not masked. -/
theorem redacted_of_question_mark {scheme user front : String} (back rest : String)
    (hscheme : ':' ∉ scheme.toList ∧ '?' ∉ scheme.toList)
    (huser : '@' ∉ user.toList ∧ '?' ∉ user.toList)
    (hfront : '@' ∉ front.toList ∧ '?' ∉ front.toList) :
    (redactConnection (connectionText scheme user (front ++ "?" ++ back) rest)).redacted =
      scheme ++ "://" ++ user ++ ":" ++ front ++ "?" ++
        String.ofList (Redaction.maskQuery (back ++ "@" ++ rest).toList) := by
  have hbase : '?' ∉ scheme.toList ++ ("://".toList ++ (user.toList ++ ':' :: front.toList)) := by
    simp [hscheme.2, huser.2, hfront.2]
  have hat : '@' ∉ user.toList ++ ':' :: front.toList := by
    simp [huser.1, hfront.1]
  have hcut := cutFirst_append_cons hbase (back.toList ++ '@' :: rest.toList)
  have htext : (connectionText scheme user (front ++ "?" ++ back) rest).toList =
      scheme.toList ++ ("://".toList ++ (user.toList ++ ':' :: front.toList)) ++
        '?' :: (back.toList ++ '@' :: rest.toList) := by
    simp [connectionText]
  rw [redactConnection, htext, hcut]
  dsimp only
  rw [Redaction.redactBase_of_at_notMem hscheme.1 hat]
  apply String.toList_inj.mp
  simp

/-- The query begins behind the first question mark, also where that is within the password. -/
theorem redactConnection_reveals_password :
    ¬∀ scheme user password password' rest : String, ':' ∉ scheme.toList → '?' ∉ scheme.toList →
      ':' ∉ user.toList → '/' ∉ user.toList → '@' ∉ user.toList → '?' ∉ user.toList →
      redactConnection (connectionText scheme user password rest) =
        redactConnection (connectionText scheme user password' rest) := by
  intro h
  have hsame := h "postgres" "u" "pa?ss" "secret" "h:5433/db" (by decide) (by decide) (by decide)
    (by decide) (by decide) (by decide)
  revert hsame
  decide +kernel

end SyntheticRows
