import SyntheticRows.Proofs.Connection.Redaction
/-!
# Masking twice is masking once

A mask holds none of the characters at which a connection text is cut, and it stands between two of
them. So each cut of the masked text falls where the cut of the text did: the parts are found again,
and what is masked is masked by the same.
-/

namespace SyntheticRows

open Text

namespace Redaction

variable {text base scheme rest credentials target : List Char}

/-! ### The query -/

theorem maskParameter_maskParameter (parameter : List Char) :
    maskParameter (maskParameter parameter) = maskParameter parameter := by
  cases hcut : cutFirst '=' parameter with
  | none =>
      have hself : maskParameter parameter = parameter := by rw [maskParameter, hcut]
      rw [hself, hself]
  | some cut =>
      obtain ⟨key, value⟩ := cut
      obtain ⟨-, hkey⟩ := cutFirst_eq_some_iff.mp hcut
      by_cases hsensitive : isSensitiveKey key = true
      · have hmasked : maskParameter parameter = key ++ '=' :: mask := by
          simp only [maskParameter, hcut, hsensitive, if_true]
        rw [hmasked, maskParameter, cutFirst_append_cons hkey]
        exact if_pos hsensitive
      · have hself : maskParameter parameter = parameter := by
          simp only [maskParameter, hcut, hsensitive, if_false, Bool.false_eq_true]
        rw [hself, hself]

theorem ampersand_notMem_maskParameter {parameter : List Char} (h : '&' ∉ parameter) :
    '&' ∉ maskParameter parameter := by
  unfold maskParameter
  split
  · next key value hcut =>
      obtain ⟨rfl, -⟩ := cutFirst_eq_some_iff.mp hcut
      split
      · have hkey : '&' ∉ key := fun hmem => h (List.mem_append_left _ hmem)
        simp [hkey, mask]
      · exact h
  · exact h

/-- The parameters of a masked query are the masked parameters. -/
theorem splitAtEach_maskQuery (query : List Char) :
    splitAtEach '&' (maskQuery query) = (splitAtEach '&' query).map maskParameter := by
  have hlisted := splitAtEach_eq_iff.mp (rfl : splitAtEach '&' query = splitAtEach '&' query)
  refine splitAtEach_eq_iff.mpr ⟨?_, ?_, rfl⟩
  · exact List.map_eq_nil_iff.not.mpr hlisted.nonempty
  · exact List.forall_mem_map.mpr fun parameter hmem =>
      ampersand_notMem_maskParameter (hlisted.unmarked parameter hmem)

theorem maskQuery_maskQuery (query : List Char) : maskQuery (maskQuery query) = maskQuery query := by
  conv_lhs => rw [maskQuery, splitAtEach_maskQuery, List.map_map]
  exact congrArg _ (List.map_congr_left fun parameter _ => maskParameter_maskParameter parameter)

/-! ### The credentials -/

/-- Credentials are a user alone, or a user with a password that gives way to the mask. -/
theorem maskCredentials_cases (credentials : List Char) :
    (':' ∉ credentials ∧ maskCredentials credentials = (credentials, credentials ++ ['@'])) ∨
      ∃ user password, ':' ∉ user ∧ credentials = user ++ ':' :: password ∧
        maskCredentials credentials = (user, user ++ ':' :: mask ++ ['@']) := by
  cases hcut : cutFirst ':' credentials with
  | none => exact .inl ⟨cutFirst_eq_none_iff.mp hcut, by rw [maskCredentials, hcut]⟩
  | some cut =>
      obtain ⟨user, password⟩ := cut
      obtain ⟨hcredentials, huser⟩ := cutFirst_eq_some_iff.mp hcut
      exact .inr ⟨user, password, huser, hcredentials, by rw [maskCredentials, hcut]⟩

/-- Masked credentials are credentials of the same user, and are masked by themselves. -/
theorem exists_masked (h : isCredentials credentials = true) :
    ∃ shown, (maskCredentials credentials).2 = shown ++ ['@'] ∧ isCredentials shown = true ∧
      maskCredentials shown = maskCredentials credentials ∧
      ('?' ∉ credentials → '?' ∉ shown) := by
  rcases maskCredentials_cases credentials with
    ⟨-, hmask⟩ | ⟨user, password, hcolon, rfl, hmask⟩
  · exact ⟨credentials, by rw [hmask], h, rfl, id⟩
  · refine ⟨user ++ ':' :: mask, by rw [hmask], ?_, ?_, fun hquestion => ?_⟩
    · rw [isCredentials, cutFirst_append_cons hcolon] at h ⊢
      exact h
    · rw [hmask, maskCredentials_append hcolon]
    · have huser : '?' ∉ user := fun hmem => hquestion (List.mem_append_left _ hmem)
      simp [huser, mask]

theorem splitCredentials_cases (rest : List Char) :
    splitCredentials rest = (none, rest) ∨
      ∃ credentials target, rest = credentials ++ '@' :: target ∧ '@' ∉ target ∧
        isCredentials credentials = true ∧ splitCredentials rest = (some credentials, target) := by
  unfold splitCredentials
  cases hcut : cutLast '@' rest with
  | none => exact .inl rfl
  | some cut =>
      obtain ⟨credentials, target⟩ := cut
      obtain ⟨hrest, hat⟩ := cutLast_eq_some_iff.mp hcut
      by_cases h : isCredentials credentials = true
      · exact .inr ⟨credentials, target, hrest, hat, h, if_pos h⟩
      · exact .inl (if_neg h)

/-! ### The part in front of the query -/

/-- A base is shown by its scheme, its masked credentials and its target. -/
theorem redactBase_congr {base' rest' : List Char} {credentials credentials' : Option (List Char)}
    (hcut : cutFirstText "://".toList base = some (scheme, rest))
    (hcut' : cutFirstText "://".toList base' = some (scheme, rest'))
    (hsplit : splitCredentials rest = (credentials, target))
    (hsplit' : splitCredentials rest' = (credentials', target))
    (hmasked : credentials'.map maskCredentials = credentials.map maskCredentials) :
    redactBase base' = redactBase base := by
  simp only [redactBase, hcut, hcut', hsplit, hsplit', hmasked]

/-- A base that has a scheme is masked to another one with the scheme, whose masked form is the
same. -/
theorem redactBase_of_cutFirstText_eq_some
    (hcut : cutFirstText "://".toList base = some (scheme, rest)) :
    redactBase (redactBase base).2 = redactBase base ∧
      ('?' ∉ base → '?' ∉ (redactBase base).2) := by
  have hmarked : ∀ shown, cutFirstText "://".toList (scheme ++ ("://".toList ++ shown)) =
      some (scheme, shown) := cutFirstText_append_of_eq_some hcut (by decide)
  have hbase := eq_append_of_cutFirstText_eq_some hcut
  rcases splitCredentials_cases rest with
    hsplit | ⟨credentials, target, rfl, hat, hcredentials, hsplit⟩
  · have htext : (redactBase base).2 = base := by
      rw [text_redactBase hcut hsplit, hbase]
      rfl
    rw [htext]
    exact ⟨rfl, id⟩
  · obtain ⟨shown, hshown, hagain, hsame, hquestion⟩ := exists_masked hcredentials
    have htext : (redactBase base).2 =
        scheme ++ ("://".toList ++ (shown ++ '@' :: target)) := by
      rw [text_redactBase hcut hsplit, Option.map_some, Option.map_some, Option.getD_some, hshown,
        List.append_assoc]
      rfl
    rw [htext]
    refine ⟨redactBase_congr hcut (hmarked _) hsplit (splitCredentials_append hagain hat) ?_, ?_⟩
    · rw [Option.map_some, Option.map_some, hsame]
    · intro h
      rw [hbase] at h
      simp only [List.mem_append, List.mem_cons, not_or] at h ⊢
      obtain ⟨hscheme, hmark, hfront, hsign, htarget⟩ := h
      exact ⟨hscheme, hmark, hquestion hfront, hsign, htarget⟩

theorem redactBase_redactBase (base : List Char) :
    redactBase (redactBase base).2 = redactBase base ∧
      ('?' ∉ base → '?' ∉ (redactBase base).2) := by
  cases hcut : cutFirstText "://".toList base with
  | none =>
      have htext : (redactBase base).2 = base := by simp only [redactBase, hcut]
      rw [htext]
      exact ⟨rfl, id⟩
  | some cut => exact redactBase_of_cutFirstText_eq_some hcut

end Redaction

/-- **Masking is idempotent.** The masked text of any connection text stands for the same
connection: it has the same engine, user, host, port and database, and it is masked by itself. -/
theorem redactConnection_redacted (connection : String) :
    redactConnection (redactConnection connection).redacted = redactConnection connection := by
  cases hcut : cutFirst '?' connection.toList with
  | none =>
      obtain ⟨hsame, hquestion⟩ := Redaction.redactBase_redactBase connection.toList
      have hplain := cutFirst_eq_none_iff.mpr (hquestion (cutFirst_eq_none_iff.mp hcut))
      simp only [redactConnection, hcut, String.toList_ofList, hplain, hsame]
  | some cut =>
      obtain ⟨base, query⟩ := cut
      obtain ⟨-, hbase⟩ := cutFirst_eq_some_iff.mp hcut
      obtain ⟨hsame, hquestion⟩ := Redaction.redactBase_redactBase base
      have hagain := cutFirst_append_cons (hquestion hbase) (Redaction.maskQuery query)
      simp only [redactConnection, hcut, String.toList_ofList, hagain, hsame,
        Redaction.maskQuery_maskQuery]

end SyntheticRows
