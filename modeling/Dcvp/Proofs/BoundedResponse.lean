import Dcvp.Services.BoundedResponse

/-!
# `Dcvp.Proofs.BoundedResponse`: no answer is too large

`readChunks_eq` describes the loop of `readBoundedText` by the bytes that are still to come. A
call never decodes more bytes than the limit allows, whatever the header says and however the
bytes are cut. It returns exactly the text of a whole body within the limit, and it refuses
exactly the other bodies.
-/

set_option autoImplicit false

namespace Dcvp.Proofs

open Dcvp.Services

section
variable {S : Type} {decoder : TextDecoder S} {limitBytes : Nat}

/-- The loop, when what is left does not pass the limit: it decodes all of it, and the end of the
stream decides between the text and its error. -/
theorem readChunks_within {failure : Option String} {decoded : List UInt8} {state : S}
    {result : String} {chunks : List (List UInt8)}
    (h : decoded.length + chunks.flatten.length ≤ limitBytes) :
    readChunks decoder limitBytes failure decoded state result chunks =
      { outcome := match failure with
          | none => .ok (result ++ (decoder.decode state chunks.flatten).2 ++
              decoder.flush (decoder.decode state chunks.flatten).1)
          | some message => .error (.stream message)
        decoded := decoded ++ chunks.flatten } := by
  induction chunks generalizing decoded state result with
  | nil => cases failure <;> simp [readChunks, TextDecoder.decode]
  | cons chunk chunks ih =>
      rw [List.flatten_cons, List.length_append] at h
      have hfits : ¬ decoded.length + chunk.length > limitBytes := by omega
      rw [readChunks, if_neg hfits]
      have hrest : (decoded ++ chunk).length + chunks.flatten.length ≤ limitBytes := by
        rw [List.length_append]
        omega
      refine (@ih _ (decoder.decode state chunk).1 (result ++ (decoder.decode state chunk).2)
        hrest).trans ?_
      rw [List.flatten_cons, decoder.decode_append]
      simp only [String.append_assoc, List.append_assoc]

/-- The loop, when what is left passes the limit: the stream is cancelled, and what was decoded
is a beginning of the body within the limit. -/
theorem readChunks_beyond {failure : Option String} {decoded : List UInt8} {state : S}
    {result : String} {chunks : List (List UInt8)} (hdecoded : decoded.length ≤ limitBytes)
    (h : limitBytes < decoded.length + chunks.flatten.length) :
    ∃ taken, taken <+: decoded ++ chunks.flatten ∧ taken.length ≤ limitBytes ∧
      readChunks decoder limitBytes failure decoded state result chunks =
        { outcome := .error tooLarge, decoded := taken, cancelled := true } := by
  induction chunks generalizing decoded state result with
  | nil =>
      rw [List.flatten_nil, List.length_nil] at h
      omega
  | cons chunk chunks ih =>
      -- The chunk that passes the limit is not taken, and nothing behind it is read.
      by_cases hpasses : decoded.length + chunk.length > limitBytes
      · refine ⟨decoded, List.prefix_append _ _, hdecoded, ?_⟩
        rw [readChunks, if_pos hpasses]
      · have hnext : (decoded ++ chunk).length ≤ limitBytes := by
          rw [List.length_append]
          omega
        have hbeyond : limitBytes < (decoded ++ chunk).length + chunks.flatten.length := by
          rw [List.flatten_cons, List.length_append] at h
          rw [List.length_append]
          omega
        obtain ⟨taken, hprefix, hlength, heq⟩ := @ih _ (decoder.decode state chunk).1
          (result ++ (decoder.decode state chunk).2) hnext hbeyond
        refine ⟨taken, by rw [List.flatten_cons, ← List.append_assoc]; exact hprefix, hlength, ?_⟩
        rw [readChunks, if_neg hpasses]
        exact heq

/-! ### The result -/

/-- The bytes that a body sends. -/
def sentBytes (response : BoundedResponse) : List UInt8 :=
  match response.body with
  | none => []
  | some body => body.chunks.flatten

/-- The body breaks off with this error. -/
def breaksOff (response : BoundedResponse) : Option String :=
  response.body.bind BodyStream.failure

/-- The text of a body that ends. A missing body has no text. -/
def bodyText (decoder : TextDecoder S) (response : BoundedResponse) : String :=
  match response.body with
  | none => ""
  | some body => decoder.decodeAll body.chunks.flatten

/-- Reading a body: it is refused when the header announces too much or more bytes come than
the limit allows, and then not more than the limit has been decoded. Otherwise the whole body is
decoded, and it is answered, unless it breaks off. The stream is cancelled exactly when its bytes
pass the limit. -/
theorem readBoundedText_eq (decoder : TextDecoder S) (response : BoundedResponse)
    (limitBytes : Nat) :
    let reading := readBoundedText decoder response limitBytes
    (reading.decoded <+: sentBytes response ∧ reading.decoded.length ≤ limitBytes) ∧
    (reading.outcome = .error tooLarge ↔
      DeclaresTooMuch response limitBytes ∨ limitBytes < (sentBytes response).length) ∧
    (reading.cancelled = true ↔
      ¬ DeclaresTooMuch response limitBytes ∧ limitBytes < (sentBytes response).length) ∧
    ∀ text, reading.outcome = .ok text ↔
      ¬ DeclaresTooMuch response limitBytes ∧ (sentBytes response).length ≤ limitBytes ∧
        breaksOff response = none ∧ text = bodyText decoder response := by
  intro reading
  -- A header that announces too much ends the reading before the stream is touched.
  by_cases hheader : DeclaresTooMuch response limitBytes
  · have hreading : reading = { outcome := .error tooLarge } := if_pos hheader
    rw [hreading]
    simp [hheader]
  · cases hbody : response.body with
    | none =>
        have hreading : reading = { outcome := .ok "" } := by
          show readBoundedText decoder response limitBytes = _
          rw [readBoundedText, if_neg hheader, hbody]
        rw [hreading]
        have hsent : sentBytes response = [] := by rw [sentBytes, hbody]
        have htext : bodyText decoder response = "" := by rw [bodyText, hbody]
        have hends : breaksOff response = none := by rw [breaksOff, hbody]; rfl
        rw [hsent, htext, hends]
        simp [hheader, eq_comm]
    | some body =>
        have hreading : reading = readChunks decoder limitBytes body.failure [] decoder.start ""
            body.chunks := by
          show readBoundedText decoder response limitBytes = _
          rw [readBoundedText, if_neg hheader, hbody]
        have hsent : sentBytes response = body.chunks.flatten := by rw [sentBytes, hbody]
        have hends : breaksOff response = body.failure := by rw [breaksOff, hbody]; rfl
        have htext : bodyText decoder response = decoder.decodeAll body.chunks.flatten := by
          rw [bodyText, hbody]
        have hwithin := @readChunks_within S decoder limitBytes body.failure [] decoder.start ""
          body.chunks
        have hbeyond := @readChunks_beyond S decoder limitBytes body.failure [] decoder.start ""
          body.chunks (Nat.zero_le _)
        rw [← hreading] at hwithin hbeyond
        rw [hsent, hends, htext]
        generalize body.chunks.flatten = bytes at hwithin hbeyond ⊢
        rw [List.length_nil, Nat.zero_add, List.nil_append] at hwithin hbeyond
        -- Within the limit the loop takes everything and the end of the stream decides; beyond it
        -- the loop ends itself.
        by_cases hlarge : limitBytes < bytes.length
        · obtain ⟨taken, hprefix, hlength, heq⟩ := hbeyond hlarge
          rw [heq]
          simp [hheader, hlarge, hprefix, hlength]
        · have hfits : bytes.length ≤ limitBytes := Nat.le_of_not_lt hlarge
          rw [hwithin hfits]
          cases hfailure : body.failure with
          | none => simp [hheader, hfits, TextDecoder.decodeAll, eq_comm]
          | some message => simp [hheader, hfits, tooLarge]

/-- The error of a stream is that of the body: no other part of the function throws an error of
this kind. -/
theorem breaksOff_of_readBoundedText {response : BoundedResponse} {message : String}
    (h : (readBoundedText decoder response limitBytes).outcome = .error (.stream message)) :
    breaksOff response = some message := by
  -- The loop ends with an error of the stream only where the stream itself ends with it.
  have hloop : ∀ (chunks : List (List UInt8)) (failure : Option String) (decoded : List UInt8)
      (state : S) (result : String), (readChunks decoder limitBytes failure decoded state result
        chunks).outcome = .error (.stream message) → failure = some message := by
    intro chunks
    induction chunks with
    | nil =>
        intro failure decoded state result hend
        cases failure with
        | none => cases hend
        | some own => cases hend; rfl
    | cons chunk chunks ih =>
        intro failure decoded state result hend
        rw [readChunks] at hend
        split at hend
        · cases hend
        · exact ih _ _ _ _ hend
  unfold readBoundedText at h
  split at h
  · cases h
  · unfold breaksOff
    cases hbody : response.body with
    | none => rw [hbody] at h; cases h
    | some body =>
        rw [hbody] at h
        exact hloop _ _ _ _ _ h

end

end Dcvp.Proofs
