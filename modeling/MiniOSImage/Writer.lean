import MiniOSImage.Model.Ops
/-!
# Write sessions

A `with open(out, 'wb') as f:` block, seen from the world it starts in, of
which only the `Base` matters: printing and the clock before the block change
nothing here. While it runs, `Session σ out d` holds: the open writer is on `out`, the bytes
handed to it so far are `d`, the disk copy of `out` is whatever of `d` the
buffer has flushed, and nothing else a tool reads has changed (`Frame`). Each
call a block makes has one lemma here, in continuation form: how the call
leaves the session if it returns, and how if it raises, where a raise can only
come from a host that is not `Reliable`.

`wp_withWriter` assembles them: a block whose body writes `L` either returns
with `out` holding exactly `L`, or raises an `OSError` with `out` holding a
prefix of `L` — or, when the open itself failed, with `out` untouched.
-/

namespace MiniOSImage

/-- What a `with open(out, 'wb')` block may change of the world it started
in, whose base is `σ`: only `out`, the writer, the clock and the printed
lines; and it records the opening of `out`. -/
structure Frame (σ : Base) (out : String) (w : World) : Prop where
  files : ∀ p, p ≠ out → w.files p = σ.files p
  dirs : w.dirs = σ.dirs
  staging : w.staging = σ.staging
  host : w.host = σ.host
  trace : w.trace = σ.trace ++ [.openWrite out]

/-- **An open write session** on `out` whose stream so far is `d`. -/
structure Session (σ : Base) (out : String) (d : Bytes) (w : World) extends Frame σ out w :
    Prop where
  open_writer : ∃ f : Writer, w.writer = some f ∧ f.path = out ∧ f.data = d ∧
    w.files out = some f.onDisk

/-- **A finished session**: the writer is closed and `out` holds `d`. -/
structure Closed (σ : Base) (out : String) (d : Bytes) (w : World) extends Frame σ out w :
    Prop where
  closed : w.writer = none
  file : w.files out = some d

/-- The open failed: the attempt is recorded, nothing else changed. -/
structure OpenFailed (σ : Base) (out : String) (w : World) extends Frame σ out w : Prop where
  file : w.files out = σ.files out

section

variable {σ : Base} {w₀ w : World} {out : String} {d : Bytes} {β : Type} {Q : β → World → Prop}
  {E : PyError → World → Prop}

/-- A call that met a fault shows the host is not reliable. -/
theorem not_reliable_of_fault {h₀ : Host} {k : ℕ} {m : String} (hh : w.host = h₀)
    (hf : w.fate = .fault k m) : ¬ h₀.Reliable := fun hr => by
  obtain ⟨k', hk'⟩ := hr w.clock
  rw [World.fate, hh, hk'] at hf
  cases hf

theorem fate_ne_fault_of_reliable (hr : w.host.Reliable) {k : ℕ} {m : String} :
    w.fate ≠ .fault k m := fun hf => not_reliable_of_fault rfl hf hr

/-- **Reading an existing file**, outside any session: its contents, or an
`OSError` from a host that is not reliable. -/
theorem wp_readFile_cont {p : String} {D : Bytes} {Q : Bytes → World → Prop}
    (hD : w.files p = some D) (hQ : Q D w.tick)
    (hE : ∀ m, ¬ w.host.Reliable → E (.osError m) w.tick) : Wp (readFile p) Q E w := by
  rw [wp_readFile hD]
  cases hfate : w.fate with
  | ok _ => exact hQ
  | fault _ m => exact hE m (not_reliable_of_fault rfl hfate)

theorem Frame.tick (h : Frame σ out w) : Frame σ out w.tick := ⟨h.1, h.2, h.3, h.4, h.5⟩

theorem Session.tick (h : Session σ out d w) : Session σ out d w.tick := ⟨h.1.tick, h.2⟩

/-- A finished session's files: `out` holds `d`, every other file is as it was. -/
theorem Closed.files_eq (h : Closed σ out d w) : w.files = Function.update σ.files out (some d) := by
  funext p
  by_cases hp : p = out
  · subst hp
    rw [Function.update_same]
    exact h.file
  · rw [Function.update_noteq hp]
    exact h.files p hp

/-- A failed open changed no file. -/
theorem OpenFailed.files_eq (h : OpenFailed σ out w) : w.files = σ.files := by
  funext p
  by_cases hp : p = out
  · subst hp
    exact h.file
  · exact h.files p hp

/-! Printing changes none of it. -/

theorem Frame.print {line : String} (h : Frame σ out w) :
    Frame σ out { w with stdout := w.stdout ++ [line] } := ⟨h.1, h.2, h.3, h.4, h.5⟩

theorem Session.print {line : String} (h : Session σ out d w) :
    Session σ out d { w with stdout := w.stdout ++ [line] } := ⟨h.toFrame.print, h.open_writer⟩

theorem Closed.print {line : String} (h : Closed σ out d w) :
    Closed σ out d { w with stdout := w.stdout ++ [line] } := ⟨h.toFrame.print, h.closed, h.file⟩

theorem OpenFailed.print {line : String} (h : OpenFailed σ out w) :
    OpenFailed σ out { w with stdout := w.stdout ++ [line] } := ⟨h.toFrame.print, h.file⟩

theorem Frame.setWriter {o : Option Writer} (h : Frame σ out w) :
    Frame σ out { w with writer := o } := ⟨h.1, h.2, h.3, h.4, h.5⟩

/-- Flushing the writer keeps the session, whatever the host flushes. -/
theorem Session.flushWriter {f : Writer} (h : Frame σ out w) (hf : f.path = out) (k : ℕ) :
    Session σ out f.data (w.flushWriter f k) := by
  subst hf
  refine ⟨⟨fun p hp => ?_, h.dirs, h.staging, h.host, h.trace⟩, ⟨f.flushTo k, rfl, rfl, rfl, ?_⟩⟩
  · rw [World.flushWriter_files, Function.update_noteq hp, h.files p hp]
  · rw [World.flushWriter_files, Function.update_same]

/-- **`f.write(c)`**: the stream grows by `c`, on both outcomes. -/
theorem Session.wp_write {c : Bytes} {Q : Unit → World → Prop} (h : Session σ out d w)
    (hQ : ∀ w', Session σ out (d ++ c) w' → Q () w')
    (hE : ∀ m w', ¬ σ.host.Reliable → Session σ out (d ++ c) w' → E (.osError m) w') :
    Wp (write c) Q E w := by
  obtain ⟨f, hf, hp, rfl, -⟩ := h.open_writer
  rw [MiniOSImage.wp_write hf]
  have hs := Session.flushWriter (f := f.append c) h.1.tick hp
  cases hfate : w.fate with
  | ok k => exact hQ _ (hs k)
  | fault k m => exact hE m _ (not_reliable_of_fault h.host hfate) (hs k)

/-- `if c then f.write(b'\x00' * n)`: the stream grows by the padding or not at all. -/
theorem Session.wp_writeZerosIf {c : Prop} [Decidable c] {n : ℕ} {Q : Unit → World → Prop}
    (h : Session σ out d w)
    (hQ : ∀ w', Session σ out (d ++ zeros (if c then n else 0)) w' → Q () w')
    (hE : ∀ m w', ¬ σ.host.Reliable → Session σ out (d ++ zeros (if c then n else 0)) w' →
      E (.osError m) w') :
    Wp (if c then write (zeros n) else pure ()) Q E w := by
  by_cases hc : c
  · simp only [if_pos hc] at hQ hE ⊢
    exact h.wp_write hQ hE
  · simp only [if_neg hc, zeros_zero, List.append_nil] at hQ hE ⊢
    exact hQ w h

/-- **`f.tell()`**: the length of the stream. -/
theorem Session.wp_tell {Q : ℕ → World → Prop} (h : Session σ out d w) (hQ : Q d.length w) :
    Wp tell Q E w := by
  obtain ⟨f, hf, -, rfl, -⟩ := h.open_writer
  rwa [MiniOSImage.wp_tell hf]

/-- **Reading another file** during the session reads what it held at the start. -/
theorem Session.wp_readFile {p : String} {D : Bytes} {Q : Bytes → World → Prop}
    (h : Session σ out d w) (hp : p ≠ out) (hD : σ.files p = some D)
    (hQ : ∀ w', Session σ out d w' → Q D w')
    (hE : ∀ m w', ¬ σ.host.Reliable → Session σ out d w' → E (.osError m) w') :
    Wp (readFile p) Q E w :=
  wp_readFile_cont (by rw [h.files p hp, hD]) (hQ _ h.tick) fun m hr => hE m _ (h.host ▸ hr) h.tick

/-- **Reading the file being written** reads the prefix the buffer has flushed. -/
theorem Session.wp_readFile_self {Q : Bytes → World → Prop} (h : Session σ out d w)
    (hQ : ∀ D w', D <+: d → Session σ out d w' → Q D w')
    (hE : ∀ m w', ¬ σ.host.Reliable → Session σ out d w' → E (.osError m) w') :
    Wp (readFile out) Q E w := by
  obtain ⟨f, -, -, hd, hdisk⟩ := h.open_writer
  exact wp_readFile_cont hdisk (hQ _ _ (hd ▸ f.onDisk_prefix_data) h.tick)
    fun m hr => hE m _ (h.host ▸ hr) h.tick

/-- **Leaving the block**: a clean close puts all of `d` on the disk; a failed
one leaves a prefix of it. -/
theorem Session.wp_close {Q : Unit → World → Prop} (h : Session σ out d w)
    (hQ : ∀ w', Closed σ out d w' → Q () w')
    (hE : ∀ m d' w', ¬ σ.host.Reliable → d' <+: d → Closed σ out d' w' → E (.osError m) w') :
    Wp close Q E w := by
  obtain ⟨f, hf, hp, rfl, -⟩ := h.open_writer
  rw [MiniOSImage.wp_close hf]
  have hs := Session.flushWriter (f := f) h.1.tick hp
  have hc : ∀ k, Closed σ out (f.flushTo k).onDisk
      { w.tick.flushWriter f k with writer := none } := fun k =>
    ⟨(hs k).1.setWriter, rfl, (hs k).open_writer.elim fun g ⟨hg, _, _, hdisk⟩ => by
      simp only [World.flushWriter_writer, Option.some.injEq] at hg; subst hg; exact hdisk⟩
  cases hfate : w.fate with
  | ok _ => exact hQ _ (by simpa using hc f.data.length)
  | fault k m => exact hE m _ _ (not_reliable_of_fault h.host hfate) (f.flushTo k).onDisk_prefix_data (hc k)

/-- **Opening `out`**: a session with an empty stream, or an `OSError` with
nothing but the attempt recorded. -/
theorem wp_openWb_session {Q : Unit → World → Prop} (hd : w₀.dirs out = false)
    (hQ : ∀ w', Session w₀.base out [] w' → Q () w')
    (hE : ∀ m w', ¬ w₀.host.Reliable → OpenFailed w₀.base out w' → E (.osError m) w') :
    Wp (openWb out) Q E w₀ := by
  rw [wp_openWb hd]
  have hfr : OpenFailed w₀.base out (w₀.record (.openWrite out)).tick :=
    ⟨⟨fun _ _ => rfl, rfl, rfl, rfl, rfl⟩, rfl⟩
  cases hfate : w₀.fate with
  | ok _ =>
    refine hQ _ ⟨⟨fun p hp => ?_, rfl, rfl, rfl, rfl⟩, ⟨Writer.fresh out, rfl, rfl, rfl, ?_⟩⟩
    · exact Function.update_noteq hp _ _
    · exact Function.update_same _ _ _
  | fault _ m => exact hE m _ (not_reliable_of_fault rfl hfate) hfr

/-- Opening a directory raises `IsADirectoryError` and changes nothing else. -/
theorem wp_openWb_dir {Q : Unit → World → Prop} (hd : w₀.dirs out = true) :
    Wp (openWb out) Q E w₀ ↔
      E (.isADirectory (errnoMessage 21 "Is a directory" out)) (w₀.record (.openWrite out)) := by
  simp only [Wp, openWb, hd, if_true]; rfl

/-- **A `with open(out, 'wb')` block** whose body writes `L` (raising only an
`OSError`, and only on an unreliable host): it returns with `out` holding `L`,
or raises an `OSError` with `out` holding a prefix of `L` or, if the open
failed, what it held before. -/
theorem wp_withWriter {body : PyM β} {L : Bytes} {P : β → Prop}
    (hbody : ∀ w, Session w₀.base out [] w →
      Wp body (fun b w' => P b ∧ Session w₀.base out L w')
        (fun e w' => e.isOSError ∧ ¬ w₀.host.Reliable ∧ ∃ d, d <+: L ∧ Session w₀.base out d w') w) :
    Wp (withWriter out body) (fun b w' => P b ∧ Closed w₀.base out L w')
      (fun e w' => e.isOSError ∧ (¬ w₀.host.Reliable ∨ w₀.dirs out = true) ∧
        (OpenFailed w₀.base out w' ∨ ∃ d, d <+: L ∧ Closed w₀.base out d w')) w₀ := by
  rw [withWriter, wp_bind]
  cases hd : w₀.dirs out with
  | true =>
    rw [wp_openWb_dir hd]
    exact ⟨rfl, .inr rfl, .inl ⟨⟨fun _ _ => rfl, rfl, rfl, rfl, rfl⟩, rfl⟩⟩
  | false =>
    refine wp_openWb_session hd (fun w₁ h₁ => ?_) (fun m w' hr hf => ⟨rfl, .inl hr, .inl hf⟩)
    rw [wp_tryFinally]
    refine (hbody w₁ h₁).mono (fun b w₂ ⟨hb, h₂⟩ => ?_) (fun e w₂ ⟨he, hr, d, hdL, h₂⟩ => ?_)
    · exact h₂.wp_close (fun w₃ h₃ => ⟨hb, h₃⟩)
        (fun m d' w₃ hr hd' h₃ => ⟨rfl, .inl hr, .inr ⟨d', hd', h₃⟩⟩)
    · exact h₂.wp_close (fun w₃ h₃ => ⟨he, .inl hr, .inr ⟨d, hdL, h₃⟩⟩)
        (fun m d' w₃ hr hd' h₃ => ⟨rfl, .inl hr, .inr ⟨d', hd'.trans hdL, h₃⟩⟩)

/-! ## Sessions, whatever the block reads

A block that reads a missing file, a directory or the output itself still
keeps some session open: `SessionOn` forgets the stream and keeps the frame,
and every call a block body makes keeps it. -/

/-- Some write session on `out` is open. -/
def SessionOn (σ : Base) (out : String) (w : World) : Prop := ∃ d, Session σ out d w

namespace SessionOn

theorem readFile (p : String) : Preserves (SessionOn σ out) (readFile p) := by
  rintro w ⟨d, h⟩
  unfold Wp MiniOSImage.readFile
  split
  · split <;> exact ⟨d, h⟩
  · split <;> exact ⟨d, h.tick⟩

theorem write (c : Bytes) : Preserves (SessionOn σ out) (write c) := fun _ ⟨_, h⟩ =>
  h.wp_write (fun _ h' => ⟨_, h'⟩) fun _ _ _ h' => ⟨_, h'⟩

theorem tell : Preserves (SessionOn σ out) tell := fun _ ⟨d, h⟩ => h.wp_tell ⟨d, h⟩

theorem print (line : String) : Preserves (SessionOn σ out) (print line) := fun _ ⟨d, h⟩ =>
  ⟨d, h.print⟩

end SessionOn

/-- **A `with open(out, 'wb')` block whose body keeps some session open**: on
both outcomes it has changed only `out`, the writer, the clock and the
printed lines, and recorded the opening of `out`. -/
theorem wp_withWriter_frame {body : PyM β} (hbody : Preserves (SessionOn w₀.base out) body) :
    Wp (withWriter out body) (fun _ => Frame w₀.base out) (fun _ => Frame w₀.base out) w₀ := by
  rw [withWriter, wp_bind]
  cases hd : w₀.dirs out with
  | true => rw [wp_openWb_dir hd]; exact ⟨fun _ _ => rfl, rfl, rfl, rfl, rfl⟩
  | false =>
    refine wp_openWb_session hd (fun w₁ h₁ => ?_) fun _ _ _ hf => hf.toFrame
    rw [wp_tryFinally]
    refine hbody.wp ⟨[], h₁⟩ (fun _ w₂ ⟨_, h₂⟩ => ?_) fun _ w₂ ⟨_, h₂⟩ => ?_ <;>
      exact h₂.wp_close (fun _ h₃ => h₃.toFrame) fun _ _ _ _ _ h₃ => h₃.toFrame

end

end MiniOSImage
