import MiniOSImage.RawImage
/-!
# The backend chain of `create_iso.py` — what each phase tries and changes

`main` stages the inputs, then tries `grub-mkrescue`, then `mkisofs` and
`genisoimage`, then the raw fallback, and stops at the first that answers
`True`. A backend is tried when its process is started (`which` starts
none) or, for the fallback, when the output is opened; `Tried` says what one
phase's calls try and which of them may have reported success, and
`Tried.append` composes two phases. What a tool phase may change of the world
is `ToolRun`: the output path, only through what the started processes leave
there. Every phase lemma here holds on every host: the tools' answers, their
exceptions and what they leave behind are the host's choice.
-/

namespace MiniOSImage

/-- The packaging backends of `create_iso.py`. -/
inductive Backend
  | grubMkrescue
  | mkisofs
  | genisoimage
  | raw
  deriving DecidableEq, Repr

namespace Backend

/-- The order `main` tries them in. -/
def order : List Backend := [grubMkrescue, mkisofs, genisoimage, raw]

/-- The backend a program name starts. -/
def ofTool : String → Option Backend
  | "grub-mkrescue" => some grubMkrescue
  | "mkisofs" => some mkisofs
  | "genisoimage" => some genisoimage
  | _ => none

@[simp] theorem ofTool_which : ofTool "which" = none := rfl

end Backend

namespace Call

/-- The backend a side effect tries: a packaging tool's process, or the raw
fallback's opening of the output. -/
def attempt : Call → Option Backend
  | spawn (t :: _) _ => Backend.ofTool t
  | openWrite _ => some .raw
  | _ => none

/-- A process that came back with exit status 0. -/
def reportsSuccess : Call → Bool
  | spawn _ (.ok c) => c.returncode == 0
  | _ => false

@[simp] theorem attempt_spawn (t : String) (rest : List String) (r : Except PyError Completed) :
    (spawn (t :: rest) r).attempt = Backend.ofTool t := rfl

@[simp] theorem attempt_openWrite (p : String) : (openWrite p).attempt = some .raw := rfl

@[simp] theorem attempt_makedirs (p : String) : (makedirs p).attempt = none := rfl

@[simp] theorem reportsSuccess_ok (argv : List String) (c : Completed) :
    (spawn argv (.ok c)).reportsSuccess = (c.returncode == 0) := rfl

@[simp] theorem reportsSuccess_error (argv : List String) (e : PyError) :
    (spawn argv (.error e)).reportsSuccess = false := rfl

@[simp] theorem reportsSuccess_openWrite (p : String) : (openWrite p).reportsSuccess = false := rfl

end Call

/-- The side effects that try a backend. -/
def tries (cs : List Call) : List Call := cs.filter fun c => c.attempt.isSome

@[simp] theorem tries_nil : tries [] = [] := rfl

theorem tries_append (cs₁ cs₂ : List Call) : tries (cs₁ ++ cs₂) = tries cs₁ ++ tries cs₂ :=
  List.filter_append _ _

/-- **A phase that may try the backends `bs`** and answers `r`: its calls try
some of `bs`, in their order and each at most once, and none of those reported
success, save the last one when the answer is `True`. -/
def Tried (bs : List Backend) (r : Bool) (cs : List Call) : Prop :=
  ((tries cs).filterMap Call.attempt).Sublist bs ∧
    ∀ c ∈ (if r then (tries cs).dropLast else tries cs), c.reportsSuccess = false

/-- **The backends were tried in `main`'s order**, each at most once, and
none after one that reported success. -/
def TriedInOrder (cs : List Call) : Prop :=
  ((tries cs).filterMap Call.attempt).Sublist Backend.order ∧
    ∀ c ∈ (tries cs).dropLast, c.reportsSuccess = false

section Tried

variable {bs bs₁ bs₂ : List Backend} {r : Bool} {cs cs₁ cs₂ : List Call}

theorem Tried.triedInOrder (h : Tried Backend.order true cs) : TriedInOrder cs := h

/-- A phase that answered `False` may as well have answered `True`. -/
theorem Tried.of_false (h : Tried bs false cs) : Tried bs r cs := by
  refine ⟨h.1, fun c hc => h.2 c ?_⟩
  cases r
  · exact hc
  · exact List.dropLast_subset _ hc

theorem Tried.mono (h : Tried bs r cs) (hb : bs.Sublist bs₂) : Tried bs₂ r cs := ⟨h.1.trans hb, h.2⟩

/-- **Two phases in turn**, the first having answered `False`. -/
theorem Tried.append (h₁ : Tried bs₁ false cs₁) (h₂ : Tried bs₂ r cs₂) :
    Tried (bs₁ ++ bs₂) r (cs₁ ++ cs₂) := by
  refine ⟨by rw [tries_append, List.filterMap_append]; exact h₁.1.append h₂.1, fun c hc => ?_⟩
  have h₁' : ∀ c ∈ tries cs₁, c.reportsSuccess = false := h₁.2
  rw [tries_append] at hc
  cases r with
  | false => exact (List.mem_append.mp hc).elim (h₁' c) (h₂.2 c)
  | true =>
    have h₂' : ∀ c ∈ (tries cs₂).dropLast, c.reportsSuccess = false := h₂.2
    have hc : c ∈ (tries cs₁ ++ tries cs₂).dropLast := hc
    rw [List.dropLast_append] at hc
    split at hc
    · exact h₁' c (List.dropLast_subset _ hc)
    · exact (List.mem_append.mp hc).elim (h₁' c) (h₂' c)

theorem tries_eq_nil (h : ∀ c ∈ cs, c.attempt = none) : tries cs = [] :=
  List.filter_eq_nil_iff.mpr fun c hc => by simp [h c hc]

/-- Calls that try nothing. -/
theorem tried_quiet (h : ∀ c ∈ cs, c.attempt = none) : Tried [] false cs := by
  simp [Tried, tries_eq_nil h]

/-- Calls that try nothing, then a phase. -/
theorem Tried.quiet_append (hq : ∀ c ∈ cs₁, c.attempt = none) (h : Tried bs r cs₂) :
    Tried bs r (cs₁ ++ cs₂) :=
  (tried_quiet hq).append h

/-- One try of `b`, that answered `r` as its call reported. -/
theorem tried_single {c : Call} {b : Backend} (hc : c.attempt = some b)
    (hr : r = false → c.reportsSuccess = false) : Tried [b] r [c] := by
  cases r <;> simp_all [Tried, tries]

/-- A phase that cannot try the fallback did not open a file for writing. -/
theorem Tried.openWrite_not_mem (h : Tried bs r cs) (hb : Backend.raw ∉ bs) (p : String) :
    Call.openWrite p ∉ cs := fun hp =>
  hb (h.1.subset (List.mem_filterMap.mpr ⟨_, List.mem_filter.mpr ⟨hp, rfl⟩, rfl⟩))

/-- One call, answering `r` as it reported: it tried what it starts, if anything. -/
theorem tried_call {c : Call} (hr : r = false → c.reportsSuccess = false) :
    Tried c.attempt.toList r [c] := by
  cases hc : c.attempt with
  | none => exact (tried_quiet (by simpa using hc)).of_false
  | some b => exact tried_single hc hr

end Tried

theorem filterMap_ofTool_cons (n : String) (rest : List String) :
    (n :: rest).filterMap Backend.ofTool = (Backend.ofTool n).toList ++ rest.filterMap Backend.ofTool := by
  cases h : Backend.ofTool n <;> simp [List.filterMap_cons, h]

/-- **What the steps before the raw fallback may change** from `w` to `w'`:
the output path, only through what the processes started leave there, and no
regular file else; whether the output is a directory, not at all. The
temporary directory, other directories, the trace, the clock and the printed
lines may change. -/
structure ToolRun (out : String) (w w' : World) : Prop where
  files : ∀ p, p ≠ out → w'.files p = w.files p
  output : ∀ P : Option Bytes → Prop, (∀ t argv v, P v → P ((w.host.spawn t argv).leaves v)) →
    P (w.files out) → P (w'.files out)
  dirs : w'.dirs out = w.dirs out
  host : w'.host = w.host

section ToolRun

variable {out : String} {w w₁ w₂ w₃ : World}

theorem ToolRun.refl (w : World) : ToolRun out w w := ⟨fun _ _ => rfl, fun _ _ h => h, rfl, rfl⟩

/-- A step that changes none of the regular files, nor the host. -/
theorem ToolRun.of_files (hf : w₂.files = w₁.files) (hd : w₂.dirs out = w₁.dirs out)
    (hh : w₂.host = w₁.host) : ToolRun out w₁ w₂ :=
  ⟨fun _ _ => hf ▸ rfl, fun _ _ h => hf ▸ h, hd, hh⟩

theorem ToolRun.trans (h₁ : ToolRun out w₁ w₂) (h₂ : ToolRun out w₂ w₃) : ToolRun out w₁ w₃ where
  files p hp := (h₂.files p hp).trans (h₁.files p hp)
  output P hP h := h₂.output P (by rwa [h₁.host]) (h₁.output P hP h)
  dirs := h₂.dirs.trans h₁.dirs
  host := h₂.host.trans h₁.host

theorem ToolRun.print {line : String} (h : ToolRun out w₁ w₂) :
    ToolRun out w₁ { w₂ with stdout := w₂.stdout ++ [line] } := ⟨h.1, h.2, h.3, h.4⟩

/-- **Starting a process** whose `-o` path, if any, is `out`: it comes back
or raises an `Exception`, having changed only what a tool phase may, and its
outcome joins the trace. -/
theorem wp_run_tool {argv : List String} {Q : Completed → World → Prop}
    {E : PyError → World → Prop} (ho : outputArg argv = none ∨ outputArg argv = some out)
    (hQ : ∀ c w', ToolRun out w w' → w'.trace = w.trace ++ [.spawn argv (.ok c)] → Q c w')
    (hE : ∀ e w', e.isException → ToolRun out w w' →
      w'.trace = w.trace ++ [.spawn argv (.error e)] → E e w') :
    Wp (run argv) Q E w := by
  have hrun : ToolRun out w (w.spawned argv (w.host.spawn w.clock argv)) := by
    unfold World.spawned
    rcases ho with ho | ho <;> simp only [ho]
    · exact ⟨fun _ _ => rfl, fun _ _ h => h, rfl, rfl⟩
    · refine ⟨fun p hp => Function.update_noteq hp _ _, fun P hP h => ?_, rfl, rfl⟩
      simp only [World.setFile_files, Function.update_same]
      exact hP _ _ _ h
  rw [wp_run]
  split
  · next c hr => exact hQ c _ hrun (by rw [World.spawned_trace, hr])
  · next e hr =>
    exact hE e _ ((w.host.spawn w.clock argv).raises_exception e hr) hrun
      (by rw [World.spawned_trace, hr])

end ToolRun

/-! ## The tool phases -/

/-- **How a tool phase ends**, from `w`, answering `r` in `w'`: it changed only
what a tool phase may, and the calls it added tried `bs` as `Tried` says. -/
def PhaseEnd (bs : List Backend) (out : String) (w : World) (r : Bool) (w' : World) : Prop :=
  ToolRun out w w' ∧ ∃ cs, w'.trace = w.trace ++ cs ∧ Tried bs r cs

section PhaseEnd

variable {bs bs₂ : List Backend} {out : String} {r : Bool} {w w₁ w₂ : World} {cs : List Call}

/-- Nothing has been tried yet. -/
theorem PhaseEnd.start : PhaseEnd [] out w false w :=
  ⟨ToolRun.refl w, [], (List.append_nil _).symm, tried_quiet (by simp)⟩

/-- **One more step** of a phase, after steps that answered nothing yet. -/
theorem PhaseEnd.extend (h : PhaseEnd bs out w false w₁) (h₂ : ToolRun out w₁ w₂)
    (t₂ : w₂.trace = w₁.trace ++ cs) (ht : Tried bs₂ r cs) : PhaseEnd (bs ++ bs₂) out w r w₂ := by
  obtain ⟨h₁, cs₁, t₁, ht₁⟩ := h
  exact ⟨h₁.trans h₂, cs₁ ++ cs, by rw [t₂, t₁, List.append_assoc], ht₁.append ht⟩

/-- A step whose calls try nothing keeps the phase, whatever it answered. -/
theorem PhaseEnd.quiet (h : PhaseEnd bs out w r w₁) (h₂ : ToolRun out w₁ w₂)
    (t₂ : w₂.trace = w₁.trace ++ cs) (hq : ∀ c ∈ cs, c.attempt = none) : PhaseEnd bs out w r w₂ := by
  obtain ⟨h₁, cs₁, t₁, ht₁⟩ := h
  refine ⟨h₁.trans h₂, cs₁ ++ cs, by rw [t₂, t₁, List.append_assoc], ?_⟩
  rwa [Tried, tries_append, tries_eq_nil hq, List.append_nil]

theorem PhaseEnd.mono (h : PhaseEnd bs out w r w₁) (hb : bs.Sublist bs₂) :
    PhaseEnd bs₂ out w r w₁ :=
  ⟨h.1, h.2.imp fun _ ⟨t, ht⟩ => ⟨t, ht.mono hb⟩⟩

theorem PhaseEnd.print {line : String} (h : PhaseEnd bs out w r w₁) :
    PhaseEnd bs out w r { w₁ with stdout := w₁.stdout ++ [line] } := ⟨h.1.print, h.2⟩

/-- A step that changes none of the regular files, the host or the trace. -/
theorem PhaseEnd.frame (h : PhaseEnd bs out w r w₁) (hf : w₂.files = w₁.files)
    (hd : w₂.dirs out = w₁.dirs out) (hh : w₂.host = w₁.host) (ht : w₂.trace = w₁.trace) :
    PhaseEnd bs out w r w₂ :=
  ⟨h.1.trans (ToolRun.of_files hf hd hh), h.2.imp fun _ ⟨t, h'⟩ => ⟨ht.trans t, h'⟩⟩

/-! Each call to the disk before the fallback keeps the phase, on both outcomes. -/

section Disk

variable {E : PyError → World → Prop}

theorem PhaseEnd.wp_readFile {p : String} {D : Bytes} {Q : Bytes → World → Prop}
    (h : PhaseEnd bs out w false w₁) (hD : w₁.files p = some D)
    (hQ : ∀ w', PhaseEnd bs out w false w' → w'.files = w₁.files → w'.staging = w₁.staging →
      Q D w')
    (hE : ∀ m w', ¬ w.host.Reliable → PhaseEnd bs out w false w' → E (.osError m) w') :
    Wp (readFile p) Q E w₁ :=
  wp_readFile_cont hD (hQ _ (h.frame rfl rfl rfl rfl) rfl rfl)
    fun m hr => hE m _ (h.1.host ▸ hr) (h.frame rfl rfl rfl rfl)

theorem PhaseEnd.wp_makedirsStaged {rel : String} {st : Staging} {Q : Unit → World → Prop}
    (h : PhaseEnd bs out w false w₁) (hs : w₁.staging = some st)
    (hQ : ∀ w' st', PhaseEnd bs out w false w' → w'.files = w₁.files → w'.staging = some st' →
      Q () w')
    (hE : ∀ m w', ¬ w.host.Reliable → PhaseEnd bs out w false w' → E (.osError m) w') :
    Wp (makedirsStaged rel) Q E w₁ := by
  rw [MiniOSImage.wp_makedirsStaged hs]
  cases hf : w₁.fate with
  | ok _ => exact hQ _ _ (h.frame rfl rfl rfl rfl) rfl rfl
  | fault _ m => exact hE m _ (not_reliable_of_fault h.1.host hf) (h.frame rfl rfl rfl rfl)

theorem PhaseEnd.wp_writeStaged {rel : String} {data : Bytes} {st : Staging}
    {Q : Unit → World → Prop} (h : PhaseEnd bs out w false w₁) (hs : w₁.staging = some st)
    (hQ : ∀ w' st', PhaseEnd bs out w false w' → w'.files = w₁.files → w'.staging = some st' →
      Q () w')
    (hE : ∀ m w', ¬ w.host.Reliable → PhaseEnd bs out w false w' → E (.osError m) w') :
    Wp (writeStaged rel data) Q E w₁ := by
  rw [MiniOSImage.wp_writeStaged hs]
  cases hf : w₁.fate with
  | ok _ => exact hQ _ _ (h.frame rfl rfl rfl rfl) rfl rfl
  | fault _ m => exact hE m _ (not_reliable_of_fault h.1.host hf) (h.frame rfl rfl rfl rfl)

end Disk

/-! Whatever the paths name, a call before the fallback keeps the phase. -/

theorem PhaseEnd.preserves_readFile (p : String) :
    Preserves (PhaseEnd bs out w false) (readFile p) := by
  intro w₁ h
  unfold Wp readFile
  split
  · split <;> exact h
  · split <;> exact h.frame rfl rfl rfl rfl

theorem PhaseEnd.preserves_makedirsStaged (rel : String) :
    Preserves (PhaseEnd bs out w false) (makedirsStaged rel) := by
  intro w₁ h
  unfold Wp makedirsStaged
  split
  · exact h
  · split <;> exact h.frame rfl rfl rfl rfl

theorem PhaseEnd.preserves_writeStaged (rel : String) (data : Bytes) :
    Preserves (PhaseEnd bs out w false) (writeStaged rel data) := by
  intro w₁ h
  unfold Wp writeStaged
  split
  · exact h
  · split <;> exact h.frame rfl rfl rfl rfl

theorem PhaseEnd.preserves_print (line : String) :
    Preserves (PhaseEnd bs out w r) (MiniOSImage.print line) := fun _ h => h.print

end PhaseEnd

section Phases

open CreateIso

variable {w : World} {out t : String}

/-- An `except Exception` handler that prints and returns `False`. -/
theorem wp_catchException {e : PyError} {m : String} {Q : Bool → World → Prop}
    {E : PyError → World → Prop} (he : e.isException)
    (hQ : Q false { w with stdout := w.stdout ++ [m] }) :
    Wp (if e.isException = true then (do print m; pure false) else throw e) Q E w := by
  rw [if_pos he]; exact hQ

/-- **`create_iso_with_grub`**, after a phase that tried `bs`: it never
raises, and tries `grub-mkrescue` at most once. -/
theorem createIsoWithGrub_spec {bs : List Backend} {w₁ : World} (h : PhaseEnd bs out w false w₁) :
    Wp (createIsoWithGrub t out) (PhaseEnd (bs ++ [.grubMkrescue]) out w) (fun _ _ => False) w₁ := by
  simp only [createIsoWithGrub, wp_tryCatch, wp_bind]
  have which := fun {r : Except PyError Completed} {w₂ : World} (h₂ : ToolRun out w₁ w₂)
      (t₂ : w₂.trace = w₁.trace ++ [.spawn ["which", "grub-mkrescue"] r]) =>
    ((h.extend h₂ t₂ (tried_quiet (by simp))).mono (by simp) :
      PhaseEnd (bs ++ [.grubMkrescue]) out w false w₂)
  refine wp_run_tool (.inl rfl) (fun c₂ w₂ h₂ t₂ => ?_)
    (fun e w₂ he h₂ t₂ => wp_catchException he (which h₂ t₂).print)
  by_cases hc₂ : c₂.returncode ≠ 0
  · rw [if_pos hc₂]
    exact which h₂ t₂
  rw [if_neg hc₂]
  simp only [wp_bind, wp_print]
  have hw := h.extend h₂ t₂ (tried_quiet (by simp))
  refine wp_run_tool (.inr rfl) (fun c₃ w₃ h₃ t₃ => ?_)
    (fun e w₃ he h₃ t₃ => wp_catchException he ((hw.print.extend h₃ t₃
      (tried_single rfl fun _ => rfl)).mono (by simp)).print)
  have hend := fun r (hr : r = false → c₃.returncode ≠ 0) => ((hw.print.extend h₃ t₃
    (tried_single (r := r) rfl fun h' => by simpa using hr h')).mono (by simp) :
      PhaseEnd (bs ++ [.grubMkrescue]) out w r w₃)
  split_ifs with hc₃
  · exact (hend true (by simp)).print
  · exact (hend false fun _ => hc₃).print

/-- **The loop of `create_iso_with_mkisofs`** over the tools `names`, after a
phase that tried `bs`: it tries the names it finds installed, in their order,
and stops at the first that exits 0; an exception ends it early. -/
theorem tryIsoMasters_spec {bs : List Backend} {w₁ : World} (names : List String)
    (hn : "-o" ∉ names) (h : PhaseEnd bs out w false w₁) :
    Wp (tryIsoMasters t out names) (PhaseEnd (bs ++ names.filterMap Backend.ofTool) out w)
      (fun e w' => e.isException ∧ PhaseEnd (bs ++ names.filterMap Backend.ofTool) out w false w')
      w₁ := by
  induction names generalizing bs w₁ with
  | nil => simpa [tryIsoMasters] using h
  | cons n rest ih =>
    have hno : n ≠ "-o" := fun h' => hn (h' ▸ List.mem_cons_self _ _)
    have hn' : "-o" ∉ rest := fun h' => hn (List.mem_cons_of_mem _ h')
    simp only [tryIsoMasters, wp_bind]
    refine wp_run_tool (.inl (outputArg_singleton _ ▸ rfl)) (fun c₁ w₂ h₂ t₂ => ?_)
      (fun e w₂ he h₂ t₂ => ⟨he, (h.extend h₂ t₂ (tried_quiet (by simp))).mono
        (by simp [filterMap_ofTool_cons])⟩)
    have hw := h.extend h₂ t₂ (tried_quiet (by simp))
    by_cases hc₁ : c₁.returncode = 0
    · rw [if_pos hc₁]
      simp only [wp_bind, wp_print]
      refine wp_run_tool (.inr (by rw [outputArg_cons_of_ne _ hno]; rfl)) (fun c₃ w₃ h₃ t₃ => ?_)
        (fun e w₃ he h₃ t₃ => ⟨he, (hw.print.extend h₃ t₃ (tried_call fun _ => rfl)).mono
          (by simp [filterMap_ofTool_cons])⟩)
      have hend := fun r (hr : r = false → c₃.returncode ≠ 0) =>
        hw.print.extend h₃ t₃ (tried_call (r := r) fun h' => by simpa using hr h')
      split_ifs with hc₃
      · exact (hend true (by simp)).print.mono (by simp [filterMap_ofTool_cons])
      · exact (ih hn' (hend false fun _ => hc₃).print).mono
          (fun _ _ h' => h'.mono (by simp [filterMap_ofTool_cons]))
          (fun _ _ h' => ⟨h'.1, h'.2.mono (by simp [filterMap_ofTool_cons])⟩)
    · rw [if_neg hc₁]
      exact (ih hn' hw).mono (fun _ _ h' => h'.mono (by simp [filterMap_ofTool_cons]))
        (fun _ _ h' => ⟨h'.1, h'.2.mono (by simp [filterMap_ofTool_cons])⟩)

/-- **`create_iso_with_mkisofs`**, after a phase that tried `bs`: it never
raises, and tries `mkisofs`, then `genisoimage`, each at most once. -/
theorem createIsoWithMkisofs_spec {bs : List Backend} {w₁ : World} {b : String}
    (h : PhaseEnd bs out w false w₁) :
    Wp (createIsoWithMkisofs t out b) (PhaseEnd (bs ++ [.mkisofs, .genisoimage]) out w)
      (fun _ _ => False) w₁ := by
  simp only [createIsoWithMkisofs, wp_tryCatch]
  exact (tryIsoMasters_spec _ (by decide) h).mono (fun _ _ h' => h')
    fun _ _ ⟨he, h'⟩ => wp_catchException he h'.print

/-- **`create_iso_structure`**, with both inputs present: it returns `True`,
or raises an `OSError` on an unreliable host; it writes only the temporary
directory. -/
theorem createIsoStructure_spec {bs : List Backend} {w₁ : World} {st : Staging} {k b : String}
    {K B : Bytes} (h : PhaseEnd bs out w false w₁) (hs : w₁.staging = some st)
    (hk : w₁.files k = some K) (hb : w₁.files b = some B) :
    Wp (createIsoStructure k b t) (fun r w' => r = true ∧ PhaseEnd bs out w false w')
      (fun e w' => e.isOSError ∧ ¬ w.host.Reliable ∧ PhaseEnd bs out w false w') w₁ := by
  simp only [createIsoStructure, copy2, wp_bind, wp_print, wp_pure]
  have hE : ∀ m w', ¬ w.host.Reliable → PhaseEnd bs out w false w' →
      (PyError.osError m).isOSError ∧ ¬ w.host.Reliable ∧ PhaseEnd bs out w false w' :=
    fun _ _ hr h' => ⟨rfl, hr, h'⟩
  refine h.wp_makedirsStaged hs (fun w₂ _ h₂ hf₂ hs₂ => ?_) hE
  refine h₂.wp_readFile (hf₂ ▸ hk) (fun w₃ h₃ hf₃ hs₃ => ?_) hE
  refine h₃.wp_writeStaged (hs₃.trans hs₂) (fun w₄ _ h₄ hf₄ hs₄ => ?_) hE
  refine h₄.wp_readFile (hf₄ ▸ hf₃ ▸ hf₂ ▸ hb) (fun w₅ h₅ _ hs₅ => ?_) hE
  refine h₅.wp_writeStaged (hs₅.trans hs₄) (fun w₆ _ h₆ _ hs₆ => ?_) hE
  refine h₆.wp_makedirsStaged hs₆ (fun w₇ _ h₇ _ hs₇ => ?_) hE
  exact h₇.wp_writeStaged hs₇ (fun w₈ _ h₈ _ _ => ⟨trivial, h₈.print⟩) hE

/-- `create_iso_structure` with any inputs: it tries nothing and writes only
the temporary directory, on both outcomes. -/
theorem createIsoStructure_preserves {bs : List Backend} {k b : String} :
    Preserves (PhaseEnd bs out w false) (createIsoStructure k b t) := by
  unfold createIsoStructure copy2
  refine .bind (PhaseEnd.preserves_makedirsStaged _) fun _ => ?_
  refine .bind (.bind (PhaseEnd.preserves_readFile _) fun _ => PhaseEnd.preserves_writeStaged _ _)
    fun _ => ?_
  refine .bind (.bind (PhaseEnd.preserves_readFile _) fun _ => PhaseEnd.preserves_writeStaged _ _)
    fun _ => ?_
  refine .bind (PhaseEnd.preserves_makedirsStaged _) fun _ => ?_
  exact .bind (PhaseEnd.preserves_writeStaged _ _) fun _ =>
    .bind (PhaseEnd.preserves_print _) fun _ => .pure _

end Phases

/-! ## The chain -/

/-- **How the chain ends**, seen from the world `w` before it: a tool answered
`True`, the tools tried being in order with no success before the last; or
every tool failed and the raw fallback ran from some `w₃`, ending as
`WriterOutcome` says for the image `L`. -/
def ChainEnd (out : String) (L : Bytes) (w : World) (r : Bool) (w' : World) : Prop :=
  (r = true ∧ PhaseEnd [.grubMkrescue, .mkisofs, .genisoimage] out w true w') ∨
    ∃ w₃, PhaseEnd [.grubMkrescue, .mkisofs, .genisoimage] out w false w₃ ∧
      WriterOutcome w₃.base out L r w'

open CreateIso in
/-- **The body of `main`'s temporary directory**, with both inputs present and
the output naming neither: it stages them, then runs the chain. -/
theorem packageIso_spec {w w₁ : World} {t : String} {args : Args} {st : Staging} {K B : Bytes}
    (h : PhaseEnd [] args.output w false w₁) (hs : w₁.staging = some st)
    (hk : w₁.files args.kernel = some K) (hb : w₁.files args.bootloader = some B)
    (hko : args.kernel ≠ args.output) (hbo : args.bootloader ≠ args.output) :
    Wp (packageIso args t) (ChainEnd args.output (Policy.isoFallback.image B K) w)
      (fun e w' => e.isOSError ∧ ¬ w.host.Reliable ∧ PhaseEnd [] args.output w false w') w₁ := by
  simp only [packageIso, wp_bind]
  refine (createIsoStructure_spec h hs hk hb).mono (fun r w₂ ⟨hr, h₂⟩ => ?_) fun _ _ h' => h'
  rw [if_pos hr, wp_bind]
  refine (createIsoWithGrub_spec h₂).mono (fun r₃ w₃ h₃ => ?_) fun _ _ h' => h'.elim
  cases r₃ with
  | true => exact .inl ⟨rfl, h₃.mono (by decide)⟩
  | false =>
    rw [if_neg Bool.false_ne_true, wp_bind]
    refine (createIsoWithMkisofs_spec h₃).mono (fun r₄ w₄ h₄ => ?_) fun _ _ h' => h'.elim
    cases r₄ with
    | true => exact .inl ⟨rfl, h₄.mono (by decide)⟩
    | false =>
      rw [if_neg Bool.false_ne_true]
      have hfile : ∀ {p D}, p ≠ args.output → w₁.files p = some D → w₄.files p = some D :=
        fun hp hD => (h₄.1.files _ hp).trans ((h.1.files _ hp).symm.trans hD)
      exact (createSimpleIso_spec (readsAs_of_ne hbo (hfile hbo hb)) (hfile hko hk) hko).mono
        (fun _ _ h' => .inr ⟨w₄, h₄, h'⟩) fun _ _ h' => h'.elim



section ChainEnd

variable {out : String} {L : Bytes} {w w' : World} {r : Bool}

/-- **On a reliable host**, with the output no directory, the chain answers
`True`, and the backends were tried in order with none after a success. -/
theorem ChainEnd.of_reliable (h : ChainEnd out L w r w') (hr : w.host.Reliable)
    (hd : w.dirs out = false) :
    r = true ∧ ∃ cs, w'.trace = w.trace ++ cs ∧ TriedInOrder cs := by
  rcases h with ⟨rfl, -, cs, t, ht⟩ | ⟨w₃, ⟨h₃, cs, t, ht⟩, hw⟩
  · exact ⟨rfl, cs, t, (ht.mono (by decide)).triedInOrder⟩
  · have hr₃ : w₃.host.Reliable := h₃.host ▸ hr
    obtain rfl := hw.eq_true hr₃ (h₃.dirs.trans hd)
    have hc : Closed w₃.base out L w' := hw
    refine ⟨rfl, cs ++ [.openWrite out], ?_, (ht.append (tried_single (r := true)
      (c := .openWrite out) rfl fun h => nomatch h)).triedInOrder⟩
    show w'.trace = _
    rw [hc.trace]
    show w₃.trace ++ _ = _
    rw [t, List.append_assoc]

theorem ChainEnd.host (h : ChainEnd out L w r w') : w'.host = w.host := by
  rcases h with ⟨-, h', -⟩ | ⟨w₃, ⟨h₃, -⟩, hw⟩
  · exact h'.host
  · refine Eq.trans ?_ h₃.host
    cases r with
    | true => exact (Closed.toFrame hw).host
    | false => exact hw.2.elim (·.toFrame.host) fun ⟨_, _, hc⟩ => hc.toFrame.host

/-- **What the chain leaves at the output**, on every host: what the tools
made of what was there (any property of it that every tool keeps still
holds), or a prefix of the fallback image `L`. -/
theorem ChainEnd.output {P : Option Bytes → Prop} (h : ChainEnd out L w r w')
    (hP₀ : P (w.files out)) (hP : ∀ t argv v, P v → P ((w.host.spawn t argv).leaves v)) :
    P (w'.files out) ∨ ∃ d, d <+: L ∧ w'.files out = some d := by
  rcases h with ⟨-, h', -⟩ | ⟨w₃, ⟨h₃, -⟩, hw⟩
  · exact .inl (h'.output P hP hP₀)
  · have hP₃ := h₃.output P hP hP₀
    cases r with
    | true => exact .inr ⟨L, List.prefix_refl L, Closed.file hw⟩
    | false =>
      rcases hw.2 with hf | ⟨d, hd, hc⟩
      · exact .inl (hf.file ▸ hP₃)
      · exact .inr ⟨d, hd, hc.file⟩

end ChainEnd

/-! ## Any inputs

With inputs that may be missing, be directories or name the output, the
chain still changes no regular file but the output and tries the backends in
order: `IsoRun` says so of a stretch of a run, and `packageIso_isoRun` of the
chain. -/

/-- **What a run of `create_iso.py` may have done** from `w` to `w'`: changed
no regular file but `out`, kept the host, and tried the backends in `main`'s
order, each at most once and none after one that reported success. -/
structure IsoRun (out : String) (w w' : World) : Prop where
  files : ∀ p, p ≠ out → w'.files p = w.files p
  host : w'.host = w.host
  tries : ∃ cs, w'.trace = w.trace ++ cs ∧ TriedInOrder cs

section IsoRun

variable {out : String} {w w₁ w₂ : World} {bs : List Backend} {r : Bool} {cs : List Call}

/-- Calls that try nothing, with every regular file and the host as they were. -/
theorem IsoRun.quiet (hf : w₁.files = w.files) (hh : w₁.host = w.host)
    (ht : w₁.trace = w.trace ++ cs) (hq : ∀ c ∈ cs, c.attempt = none) : IsoRun out w w₁ :=
  ⟨fun _ _ => by rw [hf], hh, cs, ht, by simp [TriedInOrder, tries_eq_nil hq]⟩

theorem IsoRun.of_base (hb : w₁.base = w.base) : IsoRun out w w₁ :=
  .quiet (congrArg Base.files hb) (congrArg Base.host hb)
    ((congrArg Base.trace hb).trans (List.append_nil _).symm) (by simp)

/-- Calls that try nothing, then a stretch of a run. -/
theorem IsoRun.quiet_left (hf : w₁.files = w.files) (hh : w₁.host = w.host)
    (ht : w₁.trace = w.trace ++ cs) (hq : ∀ c ∈ cs, c.attempt = none) (h : IsoRun out w₁ w₂) :
    IsoRun out w w₂ := by
  obtain ⟨hf₂, hh₂, cs₂, ht₂, hi⟩ := h
  have hi : Tried Backend.order true cs₂ := hi
  exact ⟨fun p hp => (hf₂ p hp).trans (by rw [hf]), hh₂.trans hh, cs ++ cs₂,
    by rw [ht₂, ht, List.append_assoc], hi.quiet_append hq⟩

/-- A step that changes no regular file, nor the host or the trace. -/
theorem IsoRun.frame (h : IsoRun out w w₁) (hf : w₂.files = w₁.files) (hh : w₂.host = w₁.host)
    (ht : w₂.trace = w₁.trace) : IsoRun out w w₂ :=
  ⟨fun p hp => by rw [hf]; exact h.files p hp, hh.trans h.host,
    h.tries.imp fun _ ⟨t, hi⟩ => ⟨ht.trans t, hi⟩⟩

/-- A phase that could try only backends of `main`'s order, in it. -/
theorem PhaseEnd.isoRun (h : PhaseEnd bs out w r w₁) (hb : bs.Sublist Backend.order) :
    IsoRun out w w₁ := by
  obtain ⟨h₁, cs, t, ht⟩ := h
  refine ⟨h₁.files, h₁.host, cs, t, ?_⟩
  cases r with
  | false => exact (ht.of_false (r := true)).mono hb
  | true => exact ht.mono hb

/-- The tools, then the raw fallback, whatever it did after opening the output. -/
theorem PhaseEnd.isoRun_fallback (h : PhaseEnd [.grubMkrescue, .mkisofs, .genisoimage] out w false w₁)
    (hw : Frame w₁.base out w₂) : IsoRun out w w₂ := by
  obtain ⟨h₁, cs, t, ht⟩ := h
  refine ⟨fun p hp => (hw.files p hp).trans (h₁.files p hp), hw.host.trans h₁.host,
    cs ++ [.openWrite out], ?_, (ht.append (tried_single (r := true) (c := .openWrite out) rfl
      fun h => nomatch h)).triedInOrder⟩
  show w₂.trace = _
  rw [hw.trace]
  show w₁.trace ++ _ = _
  rw [t, List.append_assoc]

open CreateIso in
/-- **The chain, with any inputs**: on both outcomes it changed no regular
file but the output, and tried the backends in order. -/
theorem packageIso_isoRun {t : String} {args : Args} (h : PhaseEnd [] args.output w false w₁) :
    Wp (packageIso args t) (fun _ => IsoRun args.output w) (fun _ => IsoRun args.output w) w₁ := by
  simp only [packageIso, wp_bind]
  refine createIsoStructure_preserves.wp h (fun r w₂ h₂ => ?_) fun _ _ h' => h'.isoRun (by simp)
  cases r with
  | false => exact h₂.isoRun (by simp)
  | true =>
    rw [if_pos rfl, wp_bind]
    refine (createIsoWithGrub_spec h₂).mono (fun r₃ w₃ h₃ => ?_) fun _ _ h' => h'.elim
    cases r₃ with
    | true => exact h₃.isoRun (by decide)
    | false =>
      rw [if_neg Bool.false_ne_true, wp_bind]
      refine (createIsoWithMkisofs_spec h₃).mono (fun r₄ w₄ h₄ => ?_) fun _ _ h' => h'.elim
      cases r₄ with
      | true => exact h₄.isoRun (by decide)
      | false =>
        rw [if_neg Bool.false_ne_true]
        exact createSimpleIso_frame.mono (fun _ _ h' => h₄.isoRun_fallback h')
          fun _ _ h' => h₄.isoRun_fallback h'

end IsoRun


/-! ## What a `True` answer means

A tool phase answers `True` only right after the process it started exited
0, and the raw fallback only with the image in place: the calls a run added
end with a try that succeeded (`SucceededSince`). -/

/-- The last side effect of the run is a packaging tool's process that exited 0. -/
def LastToolSucceeded (w : World) : Prop :=
  ∃ c, w.trace.getLast? = some c ∧ c.attempt.isSome ∧ c.reportsSuccess

/-- **A backend succeeded**: the last side effect was a packaging tool that
exited 0, or the raw fallback's opening of `out`, which now holds `L`. -/
def BackendSucceeded (out : String) (L : Bytes) (w : World) : Prop :=
  LastToolSucceeded w ∨ (w.trace.getLast? = some (.openWrite out) ∧ w.files out = some L)

/-- **A backend succeeded since `w₀`**: the calls added since `w₀` end with a
try, which is a packaging tool whose process exited 0, or the raw fallback's
opening of `out`, which now holds `L`. -/
def SucceededSince (out : String) (L : Bytes) (w₀ w : World) : Prop :=
  ∃ cs c, w.trace = w₀.trace ++ cs ∧ cs.getLast? = some c ∧ c.attempt.isSome ∧
    (c.reportsSuccess ∨ (c = .openWrite out ∧ w.files out = some L))

/-- **The last backend tried succeeded**: a packaging tool whose process
exited 0, or the raw fallback, after which `out` holds `L`. -/
def LastTrySucceeded (out : String) (L : Bytes) (cs : List Call) (w : World) : Prop :=
  ∃ c, (tries cs).getLast? = some c ∧
    (c.reportsSuccess = true ∨ (c = .openWrite out ∧ w.files out = some L))

/-- The last call, when it tries a backend, is the last try. -/
theorem tries_getLast? {cs : List Call} {c : Call} (hl : cs.getLast? = some c)
    (ha : c.attempt.isSome) : (tries cs).getLast? = some c := by
  rw [← List.dropLast_append_getLast? c hl, tries, List.filter_append, List.filter_singleton, ha,
    cond_true]
  exact List.getLast?_concat _

section Answer

open CreateIso

variable {out t : String} {L : Bytes} {w w₀ w₁ w' : World}

theorem SucceededSince.extend {cs₀ : List Call} (h₀ : w₁.trace = w₀.trace ++ cs₀)
    (h : SucceededSince out L w₁ w) : SucceededSince out L w₀ w := by
  obtain ⟨cs, c, ht, hl, ha, hs⟩ := h
  have hne : cs ≠ [] := fun h' => by simp [h'] at hl
  exact ⟨cs₀ ++ cs, c, by rw [ht, h₀, List.append_assoc],
    by rw [List.getLast?_append_of_ne_nil _ hne, hl], ha, hs⟩

theorem SucceededSince.frame (h : SucceededSince out L w₀ w) (hf : w'.files = w.files)
    (ht : w'.trace = w.trace) : SucceededSince out L w₀ w' := by
  obtain ⟨cs, c, ht', hl, ha, hs⟩ := h
  exact ⟨cs, c, ht.trans ht', hl, ha, hf ▸ hs⟩

theorem SucceededSince.backendSucceeded (h : SucceededSince out L w₀ w) :
    BackendSucceeded out L w := by
  obtain ⟨cs, c, ht, hl, ha, hs⟩ := h
  have hw : w.trace.getLast? = some c := by rw [ht, List.getLast?_append, hl]; rfl
  rcases hs with hs | ⟨rfl, hf⟩
  · exact .inl ⟨c, hw, ha, hs⟩
  · exact .inr ⟨hw, hf⟩

/-- Read off the calls `cs` the run added: the last try among them succeeded. -/
theorem SucceededSince.lastTry {cs : List Call} (h : SucceededSince out L w₀ w)
    (ht : w.trace = w₀.trace ++ cs) : LastTrySucceeded out L cs w := by
  obtain ⟨cs', c, ht', hl, ha, hs⟩ := h
  obtain rfl := List.append_cancel_left (ht'.symm.trans ht)
  exact ⟨c, tries_getLast? hl ha, hs⟩

theorem LastTrySucceeded.of_files {cs : List Call} (h : LastTrySucceeded out L cs w)
    (hf : w'.files = w.files) : LastTrySucceeded out L cs w' := by
  obtain ⟨c, hc, hs⟩ := h
  exact ⟨c, hc, hf ▸ hs⟩

/-- **When no tool succeeded, the fallback was reached and wrote `L`**: the
last try is the raw fallback's opening of `out`, which holds `L`. -/
theorem LastTrySucceeded.fallback {cs : List Call} (h : LastTrySucceeded out L cs w)
    (hno : ∀ c ∈ tries cs, c.reportsSuccess = false) :
    (tries cs).getLast? = some (.openWrite out) ∧ w.files out = some L := by
  obtain ⟨c, hc, hs | ⟨rfl, hL⟩⟩ := h
  · exact absurd hs (by rw [hno c (List.mem_of_getLast?_eq_some hc)]; decide)
  · exact ⟨hc, hL⟩

/-- A packaging tool that exited 0 succeeded. -/
theorem SucceededSince.of_spawn {n : String} {rest : List String} {c : Completed}
    (ht : w.trace = w₀.trace ++ [.spawn (n :: rest) (.ok c)]) (hn : (Backend.ofTool n).isSome)
    (hc : c.returncode = 0) : SucceededSince out L w₀ w :=
  ⟨_, _, ht, rfl, hn, .inl (by simp [hc])⟩

/-- **Starting a process**, on every host: its outcome joins the trace. -/
theorem wp_run_trace {argv : List String} {Q : Completed → World → Prop}
    {E : PyError → World → Prop}
    (hQ : ∀ c w', w'.trace = w.trace ++ [.spawn argv (.ok c)] → Q c w')
    (hE : ∀ e w', w'.trace = w.trace ++ [.spawn argv (.error e)] → E e w') :
    Wp (run argv) Q E w := by
  rw [wp_run]
  split
  · next c hs => exact hQ c _ (by rw [World.spawned_trace, hs])
  · next e hs => exact hE e _ (by rw [World.spawned_trace, hs])

/-- A handler that prints and answers `False`, or passes the exception on. -/
theorem wp_handler_false {e : PyError} {m : String} {Q : Bool → World → Prop}
    (hQ : ∀ w', Q false w') :
    Wp (if e.isException = true then (do print m; pure false) else throw e) Q (fun _ _ => True) w := by
  split
  · exact hQ _
  · trivial

/-- **`create_iso_with_grub` answers `True`** only right after `grub-mkrescue` exited 0. -/
theorem createIsoWithGrub_true :
    Wp (createIsoWithGrub t out) (fun r w' => r = true → SucceededSince out L w₁ w')
      (fun _ _ => True) w₁ := by
  simp only [createIsoWithGrub, wp_tryCatch, wp_bind]
  refine wp_run_trace (fun c₁ w₂ t₂ => ?_) fun _ _ _ =>
    wp_handler_false fun _ => nofun
  split
  · exact nofun
  simp only [wp_bind, wp_print]
  refine wp_run_trace (fun c₃ w₃ t₃ => ?_) fun _ _ _ =>
    wp_handler_false fun _ => nofun
  split
  · exact fun _ => (SucceededSince.of_spawn t₃ rfl ‹_›).extend t₂
  · exact nofun

/-- The loop over the El Torito tools answers `True` only right after one of
them exited 0. -/
theorem tryIsoMasters_true (names : List String) (hn : ∀ n ∈ names, (Backend.ofTool n).isSome) :
    Wp (tryIsoMasters t out names) (fun r w' => r = true → SucceededSince out L w₁ w')
      (fun _ _ => True) w₁ := by
  induction names generalizing w₁ with
  | nil => exact nofun
  | cons n rest ih =>
    have hn' : ∀ m ∈ rest, (Backend.ofTool m).isSome := fun m hm => hn m (List.mem_cons_of_mem _ hm)
    simp only [tryIsoMasters, wp_bind]
    refine wp_run_trace (fun c₁ w₂ t₂ => ?_) fun _ _ _ => trivial
    split
    · simp only [wp_bind, wp_print]
      refine wp_run_trace (fun c₃ w₃ t₃ => ?_) fun _ _ _ => trivial
      split
      · exact fun _ => (SucceededSince.of_spawn t₃ (hn n (List.mem_cons_self _ _)) ‹_›).extend t₂
      · simp only [wp_bind, wp_print]
        exact (ih hn').mono (fun _ _ h hr => (h hr).extend (by rw [t₃, t₂, List.append_assoc]))
          fun _ _ _ => trivial
    · exact (ih hn').mono (fun _ _ h hr => (h hr).extend t₂) fun _ _ _ => trivial

theorem createIsoWithMkisofs_true {b : String} :
    Wp (createIsoWithMkisofs t out b) (fun r w' => r = true → SucceededSince out L w₁ w')
      (fun _ _ => True) w₁ := by
  simp only [createIsoWithMkisofs, wp_tryCatch]
  exact (tryIsoMasters_true _ (by decide)).mono (fun _ _ h => h)
    fun _ _ _ => wp_handler_false fun _ => nofun

/-- **The chain answers `True` only when a backend succeeded** since the
phase began at `w`, with both inputs present and the output naming neither;
it raises only an `OSError`. -/
theorem packageIso_true {args : Args} {st : Staging} {K B : Bytes}
    (h : PhaseEnd [] args.output w false w₁) (hs : w₁.staging = some st)
    (hk : w₁.files args.kernel = some K) (hb : w₁.files args.bootloader = some B)
    (hko : args.kernel ≠ args.output) (hbo : args.bootloader ≠ args.output) :
    Wp (packageIso args t)
      (fun r w' => r = true → SucceededSince args.output (Policy.isoFallback.image B K) w w')
      (fun e _ => e.isOSError) w₁ := by
  simp only [packageIso, wp_bind]
  refine (createIsoStructure_spec h hs hk hb).mono (fun r w₂ ⟨hr, h₂⟩ => ?_) fun _ _ h' => h'.1
  obtain ⟨cs₂, t₂, -⟩ := h₂.2
  rw [if_pos hr, wp_bind]
  refine ((createIsoWithGrub_spec h₂).and (createIsoWithGrub_true (L := Policy.isoFallback.image B K))).mono
    (fun r₃ w₃ ⟨h₃, ht₃⟩ => ?_) fun _ _ h' => h'.1.elim
  cases r₃ with
  | true => exact fun _ => (ht₃ rfl).extend t₂
  | false =>
    obtain ⟨cs₃, t₃, -⟩ := h₃.2
    rw [if_neg Bool.false_ne_true, wp_bind]
    refine ((createIsoWithMkisofs_spec h₃).and
      (createIsoWithMkisofs_true (L := Policy.isoFallback.image B K))).mono
      (fun r₄ w₄ ⟨h₄, ht₄⟩ => ?_) fun _ _ h' => h'.1.elim
    cases r₄ with
    | true => exact fun _ => (ht₄ rfl).extend t₃
    | false =>
      rw [if_neg Bool.false_ne_true]
      have hfile : ∀ {p D}, p ≠ args.output → w₁.files p = some D → w₄.files p = some D :=
        fun hp hD => (h₄.1.files _ hp).trans ((h.1.files _ hp).symm.trans hD)
      obtain ⟨cs₄, t₄, -⟩ := h₄.2
      refine (createSimpleIso_spec (readsAs_of_ne hbo (hfile hbo hb)) (hfile hko hk) hko).mono
        (fun r w' hw => ?_) fun _ _ h' => h'.elim
      rintro rfl
      have ht : w'.trace = w.trace ++ (cs₄ ++ [.openWrite args.output]) := by
        rw [(Closed.toFrame hw).trace]
        exact (congrArg (· ++ _) t₄).trans (List.append_assoc _ _ _)
      exact ⟨_, _, ht, List.getLast?_concat _, rfl, .inr ⟨rfl, Closed.file hw⟩⟩

end Answer

/-! ## What the temporary directory holds

`create_iso_structure` stages copies of the inputs and the GRUB menu in the
temporary directory, and no later step writes there: `StagedTree` is all the
directory can hold while the chain runs, and so all a failed removal of it
can leave behind. -/

section Staging

open CreateIso

variable {out t k b : String} {K B : Option Bytes} {s : Option Staging} {st : Staging}
  {w w' : World}

/-- **What the temporary directory may hold**: the directories `boot` and
`boot/grub`, and under them the kernel `K` and the bootloader `B` as the run
found them, and the GRUB menu. -/
def StagedTree (K B : Option Bytes) (st : Staging) : Prop :=
  (∀ d ∈ st.dirs, d = "boot" ∨ d = "boot/grub") ∧
    ∀ f ∈ st.files, (f.1 = "boot/kernel.elf" ∧ K = some f.2) ∨
      (f.1 = "boot/bootloader.bin" ∧ B = some f.2) ∨ f = ("boot/grub/grub.cfg", encodeUtf8 grubCfg)

/-- The temporary directory is there and holds only the staged tree. -/
def StagedOn (K B : Option Bytes) (w : World) : Prop :=
  ∃ st, w.staging = some st ∧ StagedTree K B st

/-- While the tree is staged from `k` and `b`, which still hold `K` and `B`. -/
def StagingFrom (k b : String) (K B : Option Bytes) (w : World) : Prop :=
  w.files k = K ∧ w.files b = B ∧ StagedOn K B w

theorem StagedTree.dir {d : String} (h : StagedTree K B st) (hd : d = "boot" ∨ d = "boot/grub") :
    StagedTree K B { st with dirs := st.dirs ++ [d] } :=
  ⟨fun d' hd' => (List.mem_append.mp hd').elim (h.1 d') fun h' => List.eq_of_mem_singleton h' ▸ hd,
    h.2⟩

theorem StagedTree.file {f : String × Bytes} (h : StagedTree K B st)
    (hf : (f.1 = "boot/kernel.elf" ∧ K = some f.2) ∨ (f.1 = "boot/bootloader.bin" ∧ B = some f.2) ∨
      f = ("boot/grub/grub.cfg", encodeUtf8 grubCfg)) :
    StagedTree K B { st with files := st.files ++ [f] } :=
  ⟨h.1, fun f' hf' => (List.mem_append.mp hf').elim (h.2 f') fun h' =>
    List.eq_of_mem_singleton h' ▸ hf⟩

theorem StagingFrom.makedirsStaged {d : String} (hd : d = "boot" ∨ d = "boot/grub") :
    Preserves (StagingFrom k b K B) (makedirsStaged d) := by
  rintro w ⟨hk, hb, st, hst, htree⟩
  rw [wp_makedirsStaged hst]
  cases w.fate
  · exact ⟨hk, hb, _, rfl, htree.dir hd⟩
  · exact ⟨hk, hb, st, hst, htree⟩

theorem StagingFrom.writeStaged {rel : String} {data : Bytes}
    (hf : (rel = "boot/kernel.elf" ∧ K = some data) ∨ (rel = "boot/bootloader.bin" ∧ B = some data) ∨
      (rel, data) = ("boot/grub/grub.cfg", encodeUtf8 grubCfg)) :
    Preserves (StagingFrom k b K B) (writeStaged rel data) := by
  rintro w ⟨hk, hb, st, hst, htree⟩
  rw [wp_writeStaged hst]
  cases w.fate
  · exact ⟨hk, hb, _, rfl, htree.file hf⟩
  · exact ⟨hk, hb, st, hst, htree⟩

/-- A copy into the tree is of what the input holds. -/
theorem StagingFrom.copy2 {src rel : String}
    (hs : (src = k ∧ rel = "boot/kernel.elf") ∨ (src = b ∧ rel = "boot/bootloader.bin")) :
    Preserves (StagingFrom k b K B) (copy2 src rel) := by
  intro w h
  simp only [MiniOSImage.copy2, wp_bind]
  cases hD : w.files src with
  | none => rw [wp_readFile_of_none hD]; exact h
  | some D =>
    rw [wp_readFile hD]
    cases w.fate
    · refine StagingFrom.writeStaged ?_ w.tick h
      rcases hs with ⟨rfl, rfl⟩ | ⟨rfl, rfl⟩
      · exact .inl ⟨rfl, h.1 ▸ hD⟩
      · exact .inr (.inl ⟨rfl, h.2.1 ▸ hD⟩)
    · exact h

end Staging

end MiniOSImage
