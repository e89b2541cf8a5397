import Placeholders.Proofs.FileSystem
import Placeholders.Proofs.Host

/-!
# What rendering leaves behind

A program that fails half-way may have spoilt what it was to write.  Rendering does not: the result
is there before anything is written, and the text is written in one go.

* `Request`, `World.guarded` — a world that refuses some requests: a file that nobody may open or
  that is no text, an input that breaks off.
* `World.Renders` — the result that rendering is to have, as the files and the input are at the
  start; `World.Accepts` — it can be written.
* `World.Delivered` — a text is in one place, and every other place is as it was.
* `ends_readParsed`, `ends_loadConfig`, `ends_collectSource` — reading; `ends_resolve`,
  `ends_writeResult` — writing; `ends_render` — the whole.
* **`run_render_trace`** — a failed run leaves no trace, and a successful one its result only.
* **`isOk_run_render_iff`** — with nothing refused (`guarded_none`), a run succeeds just if there is
  a result and a place for it.
-/

namespace Placeholders

/-! ## Worlds that refuse requests -/

/-- What may be asked of the surroundings and be refused. -/
inductive Request where
  | read (name : String)
  | input
  | write (name : String)
  deriving DecidableEq

namespace World

/-- A world as a host that refuses some requests.  A refused request changes nothing. -/
def guarded (refusal : Request → Option FileFault) : Host (StateM World) where
  readFile name := match refusal (.read name) with
    | some fault => pure (.error fault)
    | none => World.host.readFile name
  writeFile name content := match refusal (.write name) with
    | some fault => pure (.error fault)
    | none => World.host.writeFile name content
  readInput := match refusal .input with
    | some fault => pure (.error fault)
    | none => World.host.readInput
  print := World.host.print
  printError := World.host.printError

lemma guarded_none : guarded (fun _ => none) = World.host := rfl

/-! ## Results -/

section

variable (refusal : Request → Option FileFault) (w : World)

/-- The file may be read, and this is in it. -/
def Opens (name text : String) : Prop :=
  refusal (.read name) = none ∧ w.files.read name = .ok text

/-- The file holds this configuration. -/
def Loads (name : String) (c : Config) : Prop :=
  ∃ text, w.Opens refusal name text ∧ Config.ofYaml text = .ok c

/-- The user's source is an object with these fields. -/
def Offers (fields : List (String × Json)) : Option ObjectSource → Prop
  | none => fields = []
  | some .input => refusal .input = none ∧ objectOf w.input = .ok fields
  | some (.file name) => ∃ text, w.Opens refusal name text ∧ objectOf text = .ok fields

/-- What the user asks for comes to this result. -/
def Renders (o : RenderOptions) (result : String) : Prop :=
  ∃ c r fields, w.Loads refusal o.config c ∧ buildFor (o.adjust c) = .ok r
    ∧ w.Offers refusal fields o.source? ∧ resolveFor r (withPairs fields o.pairs) = .ok result

/-- A result can be written to the place that the user asks for. -/
def Accepts : Option String → Prop
  | none => True
  | some name => refusal (.write name) = none ∧ w.files.Writable name

end

/-- A text is behind the output, or it is all that is in a file.  Whatever else was written or is in
the file system is as before. -/
def Delivered (w w' : World) (text : String) : Option String → Prop
  | none => w'.output = w.output ++ text ∧ w'.files = w.files
  | some name => w'.output = w.output ∧ w'.files.read name = .ok text
      ∧ ∃ path, w.files.locateNew name = .ok path ∧ w'.files.entry path = .file text
        ∧ ∀ p, p ≠ path → w'.files.entry p = w.files.entry p

variable {refusal : Request → Option FileFault} {w w' : World}

/-- Messages make no difference to what is delivered. -/
lemma Delivered.of_kept {w₁ : World} {text : String} {output? : Option String}
    (h : w₁.Delivered w' text output?) (hkept : w.Kept w₁) : w.Delivered w' text output? := by
  cases output? with
  | none => exact ⟨hkept.output ▸ h.1, h.2.trans hkept.files⟩
  | some name =>
      obtain ⟨houtput, hread, path, hpath, hentry, hother⟩ := h
      rw [hkept.files] at hpath hother
      exact ⟨houtput.trans hkept.output, hread, path, hpath, hentry, hother⟩

/-- Messages make no difference to what a place takes. -/
lemma accepts_iff_of_kept {w₁ : World} {output? : Option String} (hkept : w.Kept w₁) :
    w₁.Accepts refusal output? ↔ w.Accepts refusal output? := by
  cases output? with
  | none => exact Iff.rfl
  | some name => rw [Accepts, Accepts, hkept.files]

/-! ## Reading -/

lemma Opens.unique {name text text' : String} (h : w.Opens refusal name text)
    (h' : w.Opens refusal name text') : text = text' :=
  Except.ok.inj (h.2.symm.trans h'.2)

lemma Loads.unique {name : String} {c c' : Config} (h : w.Loads refusal name c)
    (h' : w.Loads refusal name c') : c = c' := by
  obtain ⟨text, hopens, hload⟩ := h
  obtain ⟨text', hopens', hload'⟩ := h'
  obtain rfl := hopens.unique hopens'
  exact Except.ok.inj (hload.symm.trans hload')

lemma Offers.unique {fields fields' : List (String × Json)} {source? : Option ObjectSource}
    (h : w.Offers refusal fields source?) (h' : w.Offers refusal fields' source?) :
    fields = fields' := by
  match source? with
  | none => exact Eq.trans h (Eq.symm h')
  | some .input => exact Except.ok.inj (h.2.symm.trans h'.2)
  | some (.file name) =>
      obtain ⟨text, hopens, hobject⟩ := h
      obtain ⟨text', hopens', hobject'⟩ := h'
      obtain rfl := hopens.unique hopens'
      exact Except.ok.inj (hobject.symm.trans hobject')

/-- A file is read as it is, or not at all. -/
lemma ends_readFile (refusal : Request → Option FileFault) (w : World) (context name : String) :
    w.Ends (fileStep context ((guarded refusal).readFile name))
      (fun text w' => w' = w ∧ w.Opens refusal name text)
      (∀ text, ¬ w.Opens refusal name text) := by
  dsimp only [guarded]
  cases hrefusal : refusal (.read name) with
  | some fault =>
      refine ends_fileStep_of_error rfl context fun text hopens => ?_
      exact absurd hopens.1 (by simp [hrefusal])
  | none =>
      refine (ends_fileStep (run_readFile w name) (fun _ _ => .refl w) context).imp ?_ ?_
      · exact fun _ _ h => ⟨h.1, hrefusal, h.2⟩
      · exact fun hnone text hopens => hnone text hopens.2

/-- A file is taken for what its text stands for, if it stands for anything. -/
lemma ends_readParsed {α : Type} (refusal : Request → Option FileFault) (w : World)
    (context name : String) (parse : String → Except Failure α) :
    w.Ends
      (do
        let text ← fileStep context ((guarded refusal).readFile name)
        pureStep (parse text))
      (fun a w' => w' = w ∧ ∃ text, w.Opens refusal name text ∧ parse text = .ok a)
      (∀ a text, w.Opens refusal name text → parse text ≠ .ok a) := by
  refine (ends_readFile refusal w context name).bind ?_ ?_
  · exact fun hnone a text hopens => absurd hopens (hnone text)
  · rintro text w' ⟨rfl, hopens⟩
    refine ⟨.refl w', (ends_pureStep w' _).imp ?_ ?_⟩
    · rintro a w'' ⟨rfl, hparse⟩
      exact ⟨rfl, text, hopens, hparse⟩
    · rintro hnone a text' hopens'
      obtain rfl := hopens.unique hopens'
      exact hnone a

lemma inContext_eq_ok_iff {α : Type} {context : String} {result : Except Failure α} {a : α} :
    inContext context result = .ok a ↔ result = .ok a := by
  cases result with
  | error failure => exact iff_of_false nofun nofun
  | ok found => exact Iff.rfl

lemma ends_loadConfig (refusal : Request → Option FileFault) (w : World) (name : String) :
    w.Ends (loadConfig (guarded refusal) name) (fun c w' => w' = w ∧ w.Loads refusal name c)
      (∀ c, ¬ w.Loads refusal name c) := by
  refine (ends_readParsed refusal w _ name _).imp ?_ ?_
  · rintro c w' ⟨rfl, text, hopens, hload⟩
    exact ⟨rfl, text, hopens, inContext_eq_ok_iff.mp hload⟩
  · rintro hnone c ⟨text, hopens, hload⟩
    exact hnone c text hopens (inContext_eq_ok_iff.mpr hload)

/-- The input is read as it is, or not at all. -/
lemma ends_readInput (refusal : Request → Option FileFault) (w : World) (context : String) :
    w.Ends (fileStep context (guarded refusal).readInput)
      (fun text w' => w.Kept w' ∧ refusal .input = none ∧ text = w.input)
      (refusal .input ≠ none) := by
  dsimp only [guarded]
  cases hrefusal : refusal .input with
  | some fault =>
      exact ends_fileStep_of_error rfl context (by simp)
  | none =>
      have hrun : World.host.readInput.run w = (.ok w.input, { w with input := "" }) := rfl
      refine (ends_fileStep hrun (fun _ _ => ⟨rfl, rfl⟩) context).imp ?_ ?_
      · rintro text w' ⟨rfl, hresult⟩
        exact ⟨⟨rfl, rfl⟩, rfl, (Except.ok.inj hresult).symm⟩
      · exact fun hnone => absurd rfl (hnone w.input)

lemma ends_readObject (refusal : Request → Option FileFault) (w : World) (source : ObjectSource) :
    w.Ends (readObject (guarded refusal) source)
      (fun fields w' => w.Kept w' ∧ w.Offers refusal fields (some source))
      (∀ fields, ¬ w.Offers refusal fields (some source)) := by
  cases source with
  | input =>
      refine (ends_readInput refusal w _).bind ?_ ?_
      · exact fun hrefused fields hoffers => hrefused hoffers.1
      · rintro text w' ⟨hkept, hgranted, rfl⟩
        refine ⟨hkept, (ends_pureStep w' _).imp ?_ ?_⟩
        · rintro fields w'' ⟨rfl, hobject⟩
          exact ⟨hkept, hgranted, hobject⟩
        · exact fun hnone fields hoffers => hnone fields hoffers.2
  | file name =>
      refine (ends_readParsed refusal w _ name _).imp ?_ ?_
      · rintro fields w' ⟨rfl, hoffers⟩
        exact ⟨.refl w', hoffers⟩
      · rintro hnone fields ⟨text, hopens, hobject⟩
        exact hnone fields text hopens hobject

lemma ends_collectSource (refusal : Request → Option FileFault) (w : World)
    (source? : Option ObjectSource) (pairs : List (String × String)) :
    w.Ends (collectSource (guarded refusal) source? pairs)
      (fun source w' =>
        w.Kept w' ∧ ∃ fields, w.Offers refusal fields source? ∧ source = withPairs fields pairs)
      (∀ fields, ¬ w.Offers refusal fields source?) := by
  cases source? with
  | none => exact ⟨.refl w, [], rfl, rfl⟩
  | some source =>
      refine (ends_readObject refusal w source).bind id ?_
      rintro fields w' ⟨hkept, hoffers⟩
      exact ⟨hkept, hkept, fields, hoffers, rfl⟩

/-! ## Writing -/

/-- A file is written as a whole, or not at all. -/
lemma ends_writeFile (refusal : Request → Option FileFault) (w : World)
    (context name content : String) :
    w.Ends (fileStep context ((guarded refusal).writeFile name content))
      (fun _ w' => w.Accepts refusal (some name) ∧ w.Delivered w' content (some name))
      (¬ w.Accepts refusal (some name)) := by
  dsimp only [guarded]
  cases hrefusal : refusal (.write name) with
  | some fault =>
      refine ends_fileStep_of_error rfl context fun haccepts => ?_
      exact absurd haccepts.1 (by simp [hrefusal])
  | none =>
      cases hwrite : w.files.write name content with
      | error fault =>
          have hrun : (World.host.writeFile name content).run w = (.error fault, w) := by
            change w.writeFile name content = _
            rw [writeFile, hwrite]
          refine ends_fileStep_of_error hrun context ?_
          rintro ⟨-, hwritable⟩
          obtain ⟨files, hfiles⟩ := hwritable content
          rw [hwrite] at hfiles
          cases hfiles
      | ok files =>
          refine (ends_fileStep (run_writeFile hwrite) ?_ context).imp ?_ ?_
          · intro fault hresult
            cases hresult
          · rintro _ w' ⟨rfl, -⟩
            exact ⟨⟨hrefusal, FileSystem.writable_of_write hwrite⟩,
              rfl, FileSystem.read_write hwrite, FileSystem.entry_write hwrite⟩
          · exact fun hnone => absurd rfl (hnone ())

lemma ends_writeResult (refusal : Request → Option FileFault) (w : World) (o : RenderOptions)
    (result : String) : w.Ends (writeResult (guarded refusal) o result)
      (fun _ w' => w.Accepts refusal o.output? ∧ w.Delivered w' (result ++ "\n") o.output?)
      (¬ w.Accepts refusal o.output?) := by
  rw [writeResult]
  cases o.output? with
  | none => exact ⟨trivial, rfl, rfl⟩
  | some name =>
      obtain ⟨w₁, hrun, hkept⟩ := exists_run_unless o.quiet
        (exists_run_report w .info s!"Writing inflected target to file: {name}")
        fun _ => fileStep s!"Failed to create output file: {name}"
          ((guarded refusal).writeFile name (result ++ "\n"))
      refine ends_of_run_eq hrun hkept ((ends_writeFile refusal w₁ _ name _).imp ?_ ?_)
      · rintro _ w' ⟨haccepts, hdelivered⟩
        exact ⟨(accepts_iff_of_kept hkept).mp haccepts, hdelivered.of_kept hkept⟩
      · exact fun hnot haccepts => hnot ((accepts_iff_of_kept hkept).mpr haccepts)

/-- What follows once the resolver and the values are there. -/
lemma ends_resolve (refusal : Request → Option FileFault) (w : World) (o : RenderOptions)
    (r : Resolver) (source : Json) :
    w.Ends
      (do
        unless o.quiet do
          ExceptT.lift (warnUnbound (guarded refusal) (r.unboundKeys source))
        let result ← pureStep (resolveFor r source)
        writeResult (guarded refusal) o result)
      (fun _ w' => ∃ result, resolveFor r source = .ok result
        ∧ w.Accepts refusal o.output? ∧ w.Delivered w' (result ++ "\n") o.output?)
      (¬ ∃ result, resolveFor r source = .ok result ∧ w.Accepts refusal o.output?) := by
  obtain ⟨w₁, hwarn, hkept⟩ := exists_run_unless o.quiet
    (exists_run_warnUnbound w (r.unboundKeys source))
    fun _ => pureStep (resolveFor r source) >>= writeResult (guarded refusal) o
  refine ends_of_run_eq hwarn hkept ((ends_pureStep w₁ _).bind ?_ ?_)
  · rintro hnone ⟨result, hresolve, -⟩
    exact hnone result hresolve
  · rintro result w₂ ⟨rfl, hresolve⟩
    refine ⟨.refl w₂, (ends_writeResult refusal w₂ o result).imp ?_ ?_⟩
    · rintro _ w' ⟨haccepts, hdelivered⟩
      exact ⟨result, hresolve, (accepts_iff_of_kept hkept).mp haccepts, hdelivered.of_kept hkept⟩
    · rintro hnot ⟨-, -, haccepts⟩
      exact hnot ((accepts_iff_of_kept hkept).mpr haccepts)

/-- Rendering as a whole: there is a result, a place takes it, and there it is, or else one of the
two is missing. -/
lemma ends_render (refusal : Request → Option FileFault) (w : World) (o : RenderOptions) :
    w.Ends (render (guarded refusal) o)
      (fun _ w' => ∃ result, w.Renders refusal o result
        ∧ w.Accepts refusal o.output? ∧ w.Delivered w' (result ++ "\n") o.output?)
      (¬ ∃ result, w.Renders refusal o result ∧ w.Accepts refusal o.output?) := by
  refine (ends_loadConfig refusal w o.config).bind ?_ ?_
  · rintro hnone ⟨result, ⟨c, -, -, hloads, -⟩, -⟩
    exact hnone c hloads
  rintro c w₁ ⟨rfl, hloads⟩
  refine ⟨.refl w₁, (ends_pureStep w₁ _).bind ?_ ?_⟩
  · rintro hnone ⟨result, ⟨c', r, -, hloads', hbuild, -⟩, -⟩
    obtain rfl := hloads.unique hloads'
    exact hnone r hbuild
  rintro r w₂ ⟨rfl, hbuild⟩
  refine ⟨.refl w₂, (ends_collectSource refusal w₂ o.source? o.pairs).bind ?_ ?_⟩
  · rintro hnone ⟨result, ⟨-, -, fields, -, -, hoffers, -⟩, -⟩
    exact hnone fields hoffers
  -- the input may be used up by now, so from here on the world is another one
  rintro source w₃ ⟨hkept, fields, hoffers, rfl⟩
  refine ⟨hkept, (ends_resolve refusal w₃ o r _).imp ?_ ?_⟩
  · rintro _ w' ⟨result, hresolve, haccepts, hdelivered⟩
    exact ⟨result, ⟨c, r, fields, hloads, hbuild, hoffers, hresolve⟩,
      (accepts_iff_of_kept hkept).mp haccepts, hdelivered.of_kept hkept⟩
  · rintro hnot ⟨result, ⟨c', r', fields', hloads', hbuild', hoffers', hresolve⟩, haccepts⟩
    obtain rfl := hloads.unique hloads'
    obtain rfl := Except.ok.inj (hbuild.symm.trans hbuild')
    obtain rfl := hoffers.unique hoffers'
    exact hnot ⟨result, hresolve, (accepts_iff_of_kept hkept).mpr haccepts⟩

end World

/-- **Rendering leaves its result and nothing else.**  Whatever the user asks for, whatever is in
the files and in the input, and whatever the system refuses: a run that fails wrote no file and
printed nothing, and a run that succeeds wrote the result and a line break, to the one place that
the user asked for.  The result is that of the files as they were before, also if it took the place
of one of them.  A run fails only if there is no result, or no place for it. -/
theorem run_render_trace (refusal : Request → Option FileFault) (w : World) (o : RenderOptions) :
    match w.run (render (World.guarded refusal) o) with
    | (.error _, w') => w.Kept w'
        ∧ ¬ ∃ result, w.Renders refusal o result ∧ w.Accepts refusal o.output?
    | (.ok _, w') => ∃ result, w.Renders refusal o result
        ∧ w.Delivered w' (result ++ "\n") o.output? := by
  have hends := World.ends_render refusal w o
  rcases hrun : w.run (render (World.guarded refusal) o) with ⟨failure | _, w'⟩
  · exact (World.ends_iff_of_error hrun).mp hends
  · obtain ⟨result, hrenders, -, hdelivered⟩ := (World.ends_iff_of_ok hrun).mp hends
    exact ⟨result, hrenders, hdelivered⟩

/-- **With nothing refused, rendering succeeds just if there is a result and a place for it.** -/
theorem isOk_run_render_iff (w : World) (o : RenderOptions) :
    (w.run (render World.host o)).1.isOk ↔
      ∃ result, w.Renders (fun _ => none) o result ∧ w.Accepts (fun _ => none) o.output? := by
  have hends := World.ends_render (fun _ => none) w o
  rw [World.guarded_none] at hends
  rcases hrun : w.run (render World.host o) with ⟨failure | _, w'⟩
  · obtain ⟨-, hnone⟩ := (World.ends_iff_of_error hrun).mp hends
    exact iff_of_false nofun hnone
  · obtain ⟨result, hrenders, haccepts, -⟩ := (World.ends_iff_of_ok hrun).mp hends
    exact iff_of_true rfl ⟨result, hrenders, haccepts⟩

end Placeholders
