/-
  ObligationRuntime.Guarantees.MessageFraming — whether what is framed is read back.

  A frame has the length of its body in bytes, a blank line, and the body.  The readers
  leave the blank line to the body: they take it for its first character, and so leave the
  last character of the body to the next read.  A length in bytes can make up for that, by
  one character outside ASCII.

  Main results:
    * `stream_cons` — a frame on the translated stream,
    * `fits_of_readsBack`, `readsBack_of_fits` — the lengths at which frames are read back,
    * `framing_iff` — the two readers, on what the writers and what other peers send.
-/
import Mathlib.Algebra.GroupWithZero.Nat
import ObligationRuntime.Gateway.Fingerprint
import ObligationRuntime.Gateway.Framing

namespace ObligationRuntime

open Py JsonText

namespace Framing

/-! ## §1. Frames. -/

/-- A frame: the text of its body, and the message that was meant. -/
structure Frame where
  text : List Char
  message : Json

/-- The bytes of a text. -/
def utf8Length (cs : List Char) : Nat := (cs.map Char.utf8Size).sum

namespace Frame

/-- The length in the header. -/
def size (f : Frame) : Nat := utf8Length f.text

/-- The frame as it is sent. -/
def wire (f : Frame) : List Char := frame f.size f.text

/-- The body as it is read. -/
def body (f : Frame) : List Char := Gateway.universalNewlines f.text

/-- The body is a text of the message. -/
def Valid (F : FloatText) (f : Frame) : Prop := load F f.body = .ok f.message

/-- The frame a writer puts. -/
def written (F : FloatText) (msg : Json) : Frame := ⟨dump F compact msg, msg⟩

end Frame

/-- The text stream of some frames, its line ends translated. -/
def stream (fs : List Frame) : List Char := Gateway.universalNewlines (fs.flatMap Frame.wire)

/-- **The frames are read back**: each read gives the next message and leaves the frames
after it, and the last read finds the end. -/
def ReadsBack (reader : Reader) : List Frame → Prop
  | [] => reader (stream []) = (.ok none, [])
  | f :: fs =>
      reader (stream (f :: fs)) = (.ok (received f.message), stream fs) ∧ ReadsBack reader fs

/-- The lengths make up for the blank line. -/
def Fits : List Frame → Prop
  | [] => True
  | f :: fs =>
      (f.size = f.body.length + 1 ∨ fs = [] ∧ f.body.length + 1 ≤ f.size) ∧ Fits fs

/-! ## §2. The stream. -/

section Newlines

open Gateway

theorem universalNewlines_cons {c : Char} (hc : c ≠ '\r') (cs : List Char) :
    universalNewlines (c :: cs) = c :: universalNewlines cs := by
  rw [universalNewlines]
  · intro cs' heq
    exact absurd heq hc
  · exact hc

theorem universalNewlines_of_plain {cs : List Char} (h : '\r' ∉ cs) (rest : List Char) :
    universalNewlines (cs ++ rest) = cs ++ universalNewlines rest := by
  induction cs with
  | nil => rfl
  | cons c cs ih =>
      obtain ⟨hc, hcs⟩ := not_or.mp (mt List.mem_cons.mpr h)
      rw [List.cons_append, universalNewlines_cons (Ne.symm hc), ih hcs]
      rfl

/-- The parts of a text are translated one by one, unless a line end is cut in two. -/
theorem universalNewlines_append {rest : List Char} (h : rest.head? ≠ some '\n')
    (cs : List Char) :
    universalNewlines (cs ++ rest) = universalNewlines cs ++ universalNewlines rest := by
  induction cs using universalNewlines.induct with
  | case1 => rfl
  | case2 cs ih =>
      show '\n' :: universalNewlines (cs ++ rest) = '\n' :: universalNewlines cs ++ _
      rw [ih]
      rfl
  | case3 cs hcs ih =>
      -- A `\r` on its own stays so in the longer text: the rest begins with no `\n`.
      have hnext : ∀ ds, cs ++ rest ≠ '\n' :: ds := by
        intro ds heq
        cases cs with
        | nil => exact h (by rw [show rest = '\n' :: ds from heq]; rfl)
        | cons c cs =>
            rw [List.cons_append] at heq
            exact hcs cs (by rw [(List.cons.inj heq).1])
      have hleft : universalNewlines ('\r' :: cs) = '\n' :: universalNewlines cs := by
        rw [universalNewlines]
        exact hcs
      rw [List.cons_append, universalNewlines, hleft, ih]
      · rfl
      · exact hnext
  | case4 c cs hpair hc ih =>
      have hne : c ≠ '\r' := by
        rintro rfl
        exact hc rfl
      rw [List.cons_append, universalNewlines_cons hne, universalNewlines_cons hne, ih]
      rfl

end Newlines

theorem return_not_mem_header (n : Nat) : '\r' ∉ header n :=
  not_mem_header (by decide) (by decide) (by decide) n

/-- The next frame starts with its header. -/
theorem wires_head (fs : List Frame) : (fs.flatMap Frame.wire).head? ≠ some '\n' := by
  cases fs with
  | nil => intro h; cases h
  | cons f fs =>
      intro h
      have hfirst : ((f :: fs).flatMap Frame.wire).head? = some 'C' := rfl
      rw [hfirst] at h
      revert h
      decide

/-- **A frame on the stream**: its header, the blank line, its body, and the others. -/
theorem stream_cons (f : Frame) (fs : List Frame) :
    stream (f :: fs) = header f.size ++ '\n' :: '\n' :: (f.body ++ stream fs) := by
  have hwire : (f :: fs).flatMap Frame.wire =
      header f.size ++ '\r' :: '\n' :: '\r' :: '\n' :: (f.text ++ fs.flatMap Frame.wire) := by
    simp [Frame.wire, frame]
  unfold stream
  rw [hwire, universalNewlines_of_plain (return_not_mem_header f.size)]
  show header f.size ++ '\n' :: '\n' :: Gateway.universalNewlines _ = _
  rw [universalNewlines_append (wires_head fs)]
  rfl

theorem stream_ne_nil (f : Frame) (fs : List Frame) : stream (f :: fs) ≠ [] := by
  rw [stream_cons]
  simp

/-! ## §3. When frames are read back. -/

section

variable {F : FloatText} {reader : Reader}

/-- **What is read back** had lengths that fit. -/
theorem fits_of_readsBack (hreader : Takes F reader) {fs : List Frame}
    (h : ReadsBack reader fs) : Fits fs := by
  induction fs with
  | nil => trivial
  | cons f fs ih =>
      obtain ⟨hread, hrest⟩ := h
      refine ⟨?_, ih hrest⟩
      -- What the read leaves is as long as the other frames.
      have hleft := hreader.rest f.size ('\n' :: (f.body ++ stream fs))
      rw [← stream_cons, hread] at hleft
      have hlength := congrArg List.length hleft
      simp only [List.length_drop, List.length_cons, List.length_append] at hlength
      cases fs with
      | nil =>
          have hnil : (stream []).length = 0 := rfl
          by_cases hsize : f.size = f.body.length + 1
          · exact .inl hsize
          · exact .inr ⟨rfl, by omega⟩
      | cons g gs =>
          have hpos := List.length_pos_of_ne_nil (stream_ne_nil g gs)
          exact .inl (by omega)

/-- **Lengths that fit**: every frame is read back. -/
theorem readsBack_of_fits (hreader : Takes F reader) {fs : List Frame}
    (hvalid : ∀ f ∈ fs, f.Valid F) (h : Fits fs) : ReadsBack reader fs := by
  induction fs with
  | nil => exact hreader.done
  | cons f fs ih =>
      obtain ⟨hsize, hfits⟩ := h
      -- The blank line in front of the body is white space to the JSON reader.
      have hload : load F ('\n' :: f.body) = .ok f.message :=
        load_blank (by decide) (hvalid f (List.mem_cons_self ..))
      have htake : ('\n' :: (f.body ++ stream fs)).take f.size = '\n' :: f.body ∧
          ('\n' :: (f.body ++ stream fs)).drop f.size = stream fs := by
        rcases hsize with hsize | ⟨rfl, hsize⟩
        · rw [hsize]
          simp
        · have hnil : stream [] = [] := rfl
          rw [hnil, List.append_nil]
          exact ⟨List.take_of_length_le (by simpa using hsize),
            List.drop_eq_nil_of_le (by simpa using hsize)⟩
      refine ⟨?_, ih (fun g hg => hvalid g (List.mem_cons_of_mem _ hg)) hfits⟩
      rw [stream_cons]
      refine Prod.ext ?_ ?_
      · rw [hreader.body f.size _ (by rw [htake.1]; simp), htake.1, hload]
        rfl
      · rw [hreader.rest f.size _, htake.2]

/-! ## §4. What the writers put. -/

/-- A printable character is one byte, and no line end. -/
theorem utf8Length_of_printable {cs : List Char} (h : cs.all printable = true) :
    utf8Length cs = cs.length := by
  induction cs with
  | nil => rfl
  | cons c cs ih =>
      obtain ⟨hc, hcs⟩ := Bool.and_eq_true_iff.mp h
      have hone : c.utf8Size = 1 := by
        simp only [printable, Bool.and_eq_true, decide_eq_true_eq] at hc
        have hval : c.val ≤ 0x7f := by
          show c.val.toNat ≤ 127
          have hnat : c.toNat = c.val.toNat := rfl
          omega
        simp [Char.utf8Size, hval]
      show c.utf8Size + utf8Length cs = cs.length + 1
      rw [hone, ih hcs]
      omega

theorem universalNewlines_of_printable {cs : List Char} (h : cs.all printable = true) :
    Gateway.universalNewlines cs = cs := by
  have hplain : '\r' ∉ cs := by
    intro hmem
    exact absurd (List.all_eq_true.mp h '\r' hmem) (by decide)
  have happend := universalNewlines_of_plain hplain []
  rwa [List.append_nil, show Gateway.universalNewlines [] = [] from rfl, List.append_nil]
    at happend

/-- The frame of a writer is what it puts on the stream. -/
theorem written_wire (F : FloatText) (msg : Json) : (Frame.written F msg).wire = write F msg := by
  show frame (utf8Length (dump F compact msg)) (dump F compact msg) = _
  rw [utf8Length_of_printable (printable_dump msg)]
  rfl

/-- The length of a writer's frame is that of its body: the blank line is not in it. -/
theorem written_size (F : FloatText) (msg : Json) :
    (Frame.written F msg).size = (Frame.written F msg).body.length := by
  show utf8Length (dump F compact msg) =
    (Gateway.universalNewlines (dump F compact msg)).length
  rw [utf8Length_of_printable (printable_dump msg),
    universalNewlines_of_printable (printable_dump msg)]

theorem written_readsBack_iff (hreader : Takes F reader) (msgs : List Json) :
    ReadsBack reader (msgs.map (Frame.written F)) ↔ msgs = [] := by
  constructor
  · intro h
    cases msgs with
    | nil => rfl
    | cons msg msgs =>
        have hsize := written_size F msg
        rcases (fits_of_readsBack hreader h).1 with hlength | ⟨-, hlength⟩
        · omega
        · omega
  · rintro rfl
    exact hreader.done

end

/-- A reader of the repository, on a stream that is in time. -/
inductive IsReader (F : FloatText) : Reader → Prop
  | lsp : IsReader F (lspRead (.exact F) fun _ => true)
  | mcp : IsReader F (mcpRead (.exact F))

theorem IsReader.takes {F : FloatText} {reader : Reader} (h : IsReader F reader) :
    Takes F reader := by
  cases h with
  | lsp => exact lspRead_takes F
  | mcp => exact mcpRead_takes F

/-- **Framing**: what the writers put is read back only where there is nothing; what any
peer sends, exactly where the lengths make up for the blank line. -/
theorem framing_iff (F : FloatText) {reader : Reader} (hreader : IsReader F reader) :
    (∀ msgs : List Json, ReadsBack reader (msgs.map (Frame.written F)) ↔ msgs = []) ∧
      ∀ fs : List Frame, (∀ f ∈ fs, f.Valid F) → (ReadsBack reader fs ↔ Fits fs) := by
  refine ⟨written_readsBack_iff hreader.takes, fun fs hvalid => ?_⟩
  exact ⟨fits_of_readsBack hreader.takes, readsBack_of_fits hreader.takes hvalid⟩

/-- A body with one character of two bytes. -/
def accented : Frame := ⟨['\x22', 'é', '\x22'], .str "é"⟩

/-- A length that makes up for the blank line. -/
theorem framing_accented :
    accented.Valid noFloats ∧
      ReadsBack (lspRead (.exact noFloats) fun _ => true) [accented, accented] := by
  have hvalid : accented.Valid noFloats := by
    rfl
  refine ⟨hvalid, ((framing_iff noFloats .lsp).2 _ ?_).mpr ?_⟩
  · intro f hf
    simp only [List.mem_cons, List.not_mem_nil, or_false, or_self] at hf
    rw [hf]
    exact hvalid
  · exact ⟨.inl rfl, .inl rfl, trivial⟩

/-- A message that the writer puts: the reader takes the blank line and the first brace. -/
theorem framing_fails :
    ¬ ReadsBack (lspRead (.exact noFloats) fun _ => true) [Frame.written noFloats (.obj [])] ∧
      (lspRead (.exact noFloats) (fun _ => true) (stream [Frame.written noFloats (.obj [])])).1 =
        .error (.valueError "JSONDecodeError") := by
  have hread :
      (lspRead (.exact noFloats) (fun _ => true) (stream [Frame.written noFloats (.obj [])])).1 =
        .error (.valueError "JSONDecodeError") := by
    rfl
  refine ⟨fun h => ?_, hread⟩
  rw [h.1] at hread
  cases hread

end Framing

end ObligationRuntime
