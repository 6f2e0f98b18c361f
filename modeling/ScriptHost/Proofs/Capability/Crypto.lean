/-
ScriptHost.Proofs.Capability.Crypto — what an authenticator reads from the
addresses that scripts make.

`crypto.qr` always returns an address. Its query gives back the secret and the
issuer, whatever they are (`qr_read_back`). Its path gives back the label of
the account only if nothing in the label has a meaning in a path; a percent
sign with two digits behind it is enough to lose it (`qr_reads_escape`).
-/
import ScriptHost.Capability.Crypto
import ScriptHost.Proofs.Script.Action
import ScriptHost.Proofs.Url.Provisioning

namespace ScriptHost.CryptoFunction

variable {F : Type}

open ScriptHost.Action

/-- The arguments for a secret, an account and perhaps an issuer. -/
def qrArguments (secret account : String) (issuer : Option String) :
    List Value :=
  [.ofText secret, .ofText account] ++ (issuer.map Value.ofText).toList

theorem run_qr (secret account : String) (issuer : Option String)
    (w : World F) :
    (qr.run (qrArguments secret account issuer) : Action F _).run.run w
      = (.ok [.ofText (Url.provisioning secret account issuer)], w) := by
  let args := qrArguments secret account issuer
  have hsecret : Argument.text (Argument.nth args 0) = .ok secret :=
    Argument.text_ofText secret
  have haccount : Argument.text (Argument.nth args 1) = .ok account :=
    Argument.text_ofText account
  have hissuer : Argument.optional Argument.text (Argument.nth args 2)
      = .ok issuer := by
    cases issuer with
    | none => rfl
    | some i => exact congrArg (·.map some) (Argument.text_ofText i)
  simp only [run, run_bind, run_argument, hsecret, haccount, hissuer, args]
  rfl

/-- **What is read from the address of `crypto.qr`.** It is a path and a query.
From the query, read as form data, come the secret, the issuer if one was
passed, and nothing else. From the path behind its slash, with its escapes
read, comes the label exactly if that is not empty, begins with none of the
marks `/?#`, and has no tab, line feed or carriage return, no segment of one or
two dots between its slashes, and no percent sign with two digits behind it. -/
theorem qr_read_back (secret account : String) (issuer : Option String)
    (w : World F) :
    ∃ path query : List Char,
      (qr.run (qrArguments secret account issuer) : Action F _).run.run w
        = (.ok [.ofText ("otpauth://totp" ++ String.ofList path ++ "?"
          ++ String.ofList query)], w)
      ∧ '?' ∉ path ∧ '#' ∉ path ∧ '#' ∉ query
      ∧ Form.readPairs query
        = .ok (("secret", secret) :: (issuer.map fun i => ("issuer", i)).toList)
      ∧ let label := Url.labelOf account issuer
        ((∃ rest, path = '/' :: rest
            ∧ Percent.decode (Utf8.encode rest) = Utf8.ofString label)
          ↔ Url.Survives label.toList) := by
  refine ⟨Url.labelPath (Url.labelOf account issuer),
    Form.pairsText (Url.pairsOf secret issuer), ?_, ?_, ?_,
    Form.hash_not_mem_pairsText _, Form.readPairs_pairsText _,
    (Url.survives_iff _).symm⟩
  · rw [run_qr, Url.provisioning_eq]
  · exact fun h => absurd (Url.isEscapedInPath_of_mem_labelPath h) (by decide)
  · exact fun h => absurd (Url.isEscapedInPath_of_mem_labelPath h) (by decide)

/-- A label with a letter of two bytes, a space and an ampersand. -/
theorem qr_read_back_shop :
    let w : World Empty := ⟨Interpreter.fresh none, {}⟩
    ∃ path query : List Char,
      (qr.run [.ofText "S K", .ofText "é b", .ofText "A&B"] :
          Action Empty _).run.run w
        = (.ok [.ofText ("otpauth://totp" ++ String.ofList ('/' :: path) ++ "?"
          ++ String.ofList query)], w)
      ∧ Form.readPairs query = .ok [("secret", "S K"), ("issuer", "A&B")]
      ∧ Percent.decode (Utf8.encode path) = Utf8.ofString "A&B:é b" := by
  intro w
  have kept : ("A&B:é b".toList.all fun c => !Url.isDropped c) = true := by
    decide +kernel
  have survives : Url.Survives "A&B:é b".toList :=
    ⟨⟨'A', by decide, by decide⟩, by simpa using kept, by decide +kernel,
      Percent.noEscape_of_length (by decide +kernel)⟩
  obtain ⟨path, query, hrun, -, -, -, hquery, hlabel⟩ :=
    qr_read_back "S K" "é b" (some "A&B") w
  obtain ⟨rest, rfl, hrest⟩ := hlabel.mpr survives
  exact ⟨rest, query, hrun, hquery, hrest⟩

/-- **An escape in the name of an account is not read back.** -/
theorem qr_reads_escape :
    let w : World Empty := ⟨Interpreter.fresh none, {}⟩
    (qr.run [.ofText "S", .ofText "a%41"] : Action Empty _).run.run w
        = (.ok [.ofText "otpauth://totp/a%41?secret=S"], w)
      ∧ Percent.decode (Utf8.ofString "a%41") = Utf8.ofString "aA"
      ∧ "aA" ≠ "a%41" := by
  intro w
  have haddress : Url.provisioning "S" "a%41" none
      = "otpauth://totp/a%41?secret=S" := by
    decide +kernel
  exact ⟨(run_qr "S" "a%41" none w).trans (by rw [haddress]), by decide,
    by decide⟩

end ScriptHost.CryptoFunction
