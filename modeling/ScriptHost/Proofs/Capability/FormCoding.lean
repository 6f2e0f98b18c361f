/-
ScriptHost.Proofs.Capability.FormCoding — form data in scripts.

`url.encode` always succeeds, and `url.decode` gives its text back. On any
text `url.decode` succeeds exactly if two digits follow every percent sign
and the bytes that the text stands for are themselves a text; the check and
the decoder then see the same escapes.
-/
import ScriptHost.Capability.FormCoding
import ScriptHost.Proofs.Script.Action
import ScriptHost.Proofs.Url.Form

namespace ScriptHost.UrlFunction

variable {F : Type}

open ScriptHost.Action

theorem run_encode (text : String) (w : World F) :
    (encode.run [.ofText text] : Action F (List Value)).run.run w
      = (.ok [.ofText (Form.encode text)], w) := by
  rw [run, run_bind, run_argument_text]
  rfl

theorem run_decode (text : String) (w : World F) :
    (decode.run [.ofText text] : Action F (List Value)).run.run w
      = match Form.decode text with
        | .ok decoded => (.ok [.ofText decoded], w)
        | .error e => (refuse e : Action F (List Value)).run.run w := by
  rw [run, run_bind, run_argument_text]
  dsimp only
  cases Form.decode text <;> rfl

/-- **Form data is given back.** `url.encode` of a text succeeds in any world
and changes nothing. It returns letters, digits, the marks `*-._`, pluses and
escapes in upper case, and nothing else. `url.decode` of this succeeds in any
world and returns the text. -/
theorem run_decode_encode (text : String) :
    Form.Written (Form.encode text).toList
      ∧ (∀ w : World F,
        (encode.run [.ofText text] : Action F (List Value)).run.run w
          = (.ok [.ofText (Form.encode text)], w))
      ∧ ∀ w : World F,
        (decode.run [.ofText (Form.encode text)] :
            Action F (List Value)).run.run w
          = (.ok [.ofText text], w) := by
  refine ⟨Form.written_encode text, run_encode text, fun w => ?_⟩
  rw [run_decode, Form.decode_encode]

/-- Form data that is not read leads to a complaint. -/
theorem run_decode_refused {text : String}
    (h : ∀ s, Form.decode text ≠ .ok s) (w : World F) :
    ∃ c, (decode.run [.ofText text] : Action F (List Value)).run.run w
      = (.error (.raised (.complaint c)), w) := by
  rw [run_decode]
  cases hdecode : Form.decode text with
  | ok s => exact absurd hdecode (h s)
  | error e =>
    match e with
    | .escape _ | .encoding _ => exact ⟨_, rfl⟩
    | .outside => exact absurd hdecode (Form.decode_ne_outside text)

/-- **What `url.decode` returns.** If two digits follow every percent sign of
the text, and the bytes that the text stands for, with spaces for pluses and
bytes for escapes, are a text, it returns this text. Otherwise it raises a
complaint. It never panics, for the check never asks for bytes outside of the
text. If the check goes through, it has looked at every percent sign, and the
decoder takes just these for escapes. -/
theorem run_decode_meaning (text : String) (w : World F) :
    (∀ s, Form.Whole (Utf8.ofString text) →
      Form.meaning (Utf8.ofString text) = Utf8.ofString s →
      (decode.run [.ofText text] : Action F (List Value)).run.run w
        = (.ok [.ofText s], w))
    ∧ (¬ (Form.Whole (Utf8.ofString text)
        ∧ ∃ s, Form.meaning (Utf8.ofString text) = Utf8.ofString s) →
      ∃ c, (decode.run [.ofText text] : Action F (List Value)).run.run w
        = (.error (.raised (.complaint c)), w))
    ∧ (∀ i, Form.look (Utf8.ofString text).toArray i ≠ .error .outside)
    ∧ (Form.checkFrom (Utf8.ofString text).toArray 0 = .ok () →
      ∀ i, ((Utf8.ofString text)[i]? = some Percent.sign →
          Form.Visited (Utf8.ofString text).toArray i)
        ∧ (i ∈ Percent.escapePlaces 0 (Percent.pieces (Utf8.ofString
            (String.ofList (text.toList.map Form.plusAsSpace))))
          ↔ (Utf8.ofString text)[i]? = some Percent.sign)) := by
  refine ⟨fun s whole hmeaning => ?_, fun broken => ?_,
    Form.look_ne_outside _, fun hcheck i => ?_⟩
  · rw [run_decode, Form.decode_eq_ok_iff.mpr ⟨whole, hmeaning⟩]
  · refine run_decode_refused (fun s hs => broken ?_) w
    obtain ⟨whole, hmeaning⟩ := Form.decode_eq_ok_iff.mp hs
    exact ⟨whole, s, hmeaning⟩
  · have whole := (Form.check_eq_ok_iff _).mp hcheck
    rw [Form.ofString_spaced, (Form.pieces_of_whole whole).2]
    refine ⟨Form.visited_of_sign (by rwa [List.toList_toArray]), ?_⟩
    simp [Form.SignAt]

/-- A letter of two bytes, a plus and an escaped plus are read, and the last
percent sign is one of the escapes. A percent sign at the end is refused, and
so is a byte that begins no character. -/
theorem run_decode_mixed :
    let w : World Empty := ⟨Interpreter.fresh none, {}⟩
    (decode.run [.ofText "%C3%a9+%2B"] : Action Empty (List Value)).run.run w
        = (.ok [.ofText "é +"], w)
      ∧ (∃ c, (decode.run [.ofText "+%"] :
          Action Empty (List Value)).run.run w
        = (.error (.raised (.complaint c)), w))
      ∧ (∃ c, (decode.run [.ofText "%FF"] :
          Action Empty (List Value)).run.run w
        = (.error (.raised (.complaint c)), w))
      ∧ 7 ∈ Percent.escapePlaces 0 (Percent.pieces (Utf8.ofString
        (String.ofList ("%C3%a9+%2B".toList.map Form.plusAsSpace)))) := by
  intro w
  have hbytes : Utf8.ofString "%C3%a9+%2B" = [Percent.sign, 0x43, 0x33,
      Percent.sign, 0x61, 0x39, 0x2B, Percent.sign, 0x32, 0x42] := by
    decide
  have hmeaning : Form.meaning (Utf8.ofString "%C3%a9+%2B")
      = Utf8.ofString "é +" := by
    rw [hbytes, show Utf8.ofString "é +" = [0xC3, 0xA9, 0x20, 0x2B] by decide]
    decide
  have whole : Form.Whole (Utf8.ofString "%C3%a9+%2B") := by
    rw [hbytes]
    have last : Form.Whole [Percent.sign, 0x32, 0x42] :=
      Form.whole_sign.mpr ⟨_, _, _, rfl, rfl, rfl, fun i hi => by simp at hi⟩
    refine Form.whole_sign.mpr ⟨_, _, _, rfl, rfl, rfl, ?_⟩
    refine Form.whole_sign.mpr ⟨_, _, _, rfl, rfl, rfl, ?_⟩
    exact (Form.whole_plain (by decide)).mpr last
  have broken : ¬ Form.Whole (Utf8.ofString "+%") := by
    intro h
    rw [show Utf8.ofString "+%" = [0x2B, Percent.sign] by decide] at h
    obtain ⟨_, _, hfirst, -⟩ := h 1 rfl
    cases hfirst
  have unreadable : ∀ s, Form.meaning (Utf8.ofString "%FF")
      ≠ Utf8.ofString s := by
    intro s h
    have hbyte : Form.meaning (Utf8.ofString "%FF") = [0xFF] := by
      rw [show Utf8.ofString "%FF" = [Percent.sign, 0x46, 0x46] by decide]
      decide
    have hrefused : Utf8.toString? [0xFF] = .error ⟨0, some 1⟩ := by
      simp [Utf8.toString?, Utf8.decode, Utf8.pieces, Utf8.join, Except.map]
    have hread := Utf8.toString?_eq_ok_iff.mpr (hbyte.symm.trans h)
    rw [hrefused] at hread
    cases hread
  obtain ⟨reads, -, -, agree⟩ := run_decode_meaning "%C3%a9+%2B" w
  have hcheck := (Form.check_eq_ok_iff _).mpr whole
  exact ⟨reads "é +" whole hmeaning,
    (run_decode_meaning _ w).2.1 fun h => broken h.1,
    (run_decode_meaning _ w).2.1 fun h => h.2.elim unreadable,
    (agree hcheck 7).2.mpr (by rw [hbytes]; rfl)⟩

end ScriptHost.UrlFunction
