import Mathlib.Data.List.Basic
import Placeholders.Render

/-!
# Programs in a world

A program that may fail is followed through a world one step at a time.

* `World.run` — what a program comes to in a world, and the world after it.
* `run_bind_of_ok`, `run_bind_of_error` — a step and what is behind it.
* `run_pure`, `run_pureStep`, `run_lift`, `run_fileStep_of_ok` — single steps.
* `World.Kept` — nothing was written and nothing was printed.  `exists_run_report`,
  `exists_run_warnUnbound`, `exists_run_unless` — messages are not printed where results are.
* `World.Ends` — a program either comes to an end that is described, or fails for a reason and
  leaves no trace; `Ends.bind` puts such programs one after the other.
-/

namespace Placeholders.World

variable {α β : Type} {w w' : World}

/-- What a program comes to in a world, and the world after it. -/
def run (w : World) (program : ExceptT Failure (StateM World) α) : Except Failure α × World :=
  program.run.run w

/-! ## Steps -/

lemma run_bind (w : World) (program : ExceptT Failure (StateM World) α)
    (next : α → ExceptT Failure (StateM World) β) :
    w.run (program >>= next) = match w.run program with
      | (.ok a, w') => w'.run (next a)
      | (.error failure, w') => (.error failure, w') := by
  rw [run, run, ExceptT.run_bind, StateT.run_bind]
  rcases program.run.run w with ⟨_ | a, w'⟩ <;> rfl

lemma run_bind_of_ok {program : ExceptT Failure (StateM World) α} {a : α}
    (h : w.run program = (.ok a, w')) (next : α → ExceptT Failure (StateM World) β) :
    w.run (program >>= next) = w'.run (next a) := by
  rw [run_bind, h]

lemma run_bind_of_error {program : ExceptT Failure (StateM World) α} {failure : Failure}
    (h : w.run program = (.error failure, w')) (next : α → ExceptT Failure (StateM World) β) :
    w.run (program >>= next) = (.error failure, w') := by
  rw [run_bind, h]

lemma run_pure (w : World) (a : α) : w.run (pure a) = (.ok a, w) := rfl

lemma run_pureStep (w : World) (result : Except Failure α) :
    w.run (pureStep result) = (result, w) := rfl

lemma run_lift {action : StateM World α} {a : α} (h : action.run w = (a, w')) :
    w.run (ExceptT.lift action) = (.ok a, w') := by
  rw [run, ExceptT.run_lift, StateT.run_map, h]
  rfl

lemma run_fileStep_of_ok {action : StateM World (Except FileFault α)} {a : α}
    (h : action.run w = (.ok a, w')) (context : String) :
    w.run (fileStep context action) = (.ok a, w') := by
  rw [run, fileStep, ExceptT.run_mk, StateT.run_bind, h]
  rfl

lemma run_readFile (w : World) (name : String) :
    (World.host.readFile name).run w = (w.files.read name, w) := rfl

lemma run_writeFile {name content : String} {files : FileSystem}
    (h : w.files.write name content = .ok files) :
    (World.host.writeFile name content).run w = (.ok (), { w with files := files }) := by
  change w.writeFile name content = _
  rw [writeFile, h]

/-! ## Messages -/

/-- Nothing was written and nothing was printed. -/
structure Kept (w w' : World) : Prop where
  files : w'.files = w.files
  output : w'.output = w.output

lemma Kept.refl (w : World) : w.Kept w := ⟨rfl, rfl⟩

lemma Kept.trans {w'' : World} (h : w.Kept w') (h' : w'.Kept w'') : w.Kept w'' :=
  ⟨h'.files.trans h.files, h'.output.trans h.output⟩

lemma exists_run_report (w : World) (severity : Severity) (text : String) :
    ∃ w', (World.host.report severity text).run w = ((), w') ∧ w.Kept w' :=
  ⟨_, rfl, rfl, rfl⟩

lemma exists_run_warnUnbound (w : World) (keys : List String) :
    ∃ w', (warnUnbound World.host keys).run w = ((), w') ∧ w.Kept w' := by
  induction keys generalizing w with
  | nil => exact ⟨w, rfl, .refl w⟩
  | cons key keys ih =>
      obtain ⟨w₁, hreport, hkept₁⟩ := exists_run_report w .warning
        s!"Source value '{key}' does not match any rule and is ignored."
      obtain ⟨w₂, hrest, hkept₂⟩ := ih w₁
      refine ⟨w₂, ?_, hkept₁.trans hkept₂⟩
      rw [warnUnbound, List.forM, StateT.run_bind, hreport]
      exact hrest

/-- Be the user told something or not, what follows finds the same files and the same output. -/
lemma exists_run_unless (quiet : Bool) {message : StateM World Unit}
    (h : ∃ w', message.run w = ((), w') ∧ w.Kept w')
    (next : Unit → ExceptT Failure (StateM World) α) :
    ∃ w', w.run (if quiet = true then next () else ExceptT.lift message >>= next)
        = w'.run (next ()) ∧ w.Kept w' := by
  cases quiet with
  | true => exact ⟨w, rfl, .refl w⟩
  | false =>
      obtain ⟨w', hmessage, hkept⟩ := h
      refine ⟨w', ?_, hkept⟩
      rw [if_neg Bool.false_ne_true, run_bind_of_ok (run_lift hmessage)]

/-! ## Ends without a trace -/

/-- A program ends like this, or else it fails, keeps everything, and there is a reason for it. -/
def Ends (w : World) (program : ExceptT Failure (StateM World) α) (Q : α → World → Prop)
    (reason : Prop) : Prop :=
  match w.run program with
  | (.ok a, w') => Q a w'
  | (.error _, w') => w.Kept w' ∧ reason

section Ends

variable {program : ExceptT Failure (StateM World) α} {Q : α → World → Prop} {reason : Prop}

lemma ends_iff_of_ok {a : α} (h : w.run program = (.ok a, w')) :
    w.Ends program Q reason ↔ Q a w' := by
  rw [Ends, h]

lemma ends_iff_of_error {failure : Failure} (h : w.run program = (.error failure, w')) :
    w.Ends program Q reason ↔ w.Kept w' ∧ reason := by
  rw [Ends, h]

lemma Ends.imp {R : α → World → Prop} {reason' : Prop} (h : w.Ends program Q reason)
    (hends : ∀ a w', Q a w' → R a w') (hreason : reason → reason') :
    w.Ends program R reason' := by
  rcases hrun : w.run program with ⟨failure | a, w'⟩
  · exact (ends_iff_of_error hrun).mpr (((ends_iff_of_error hrun).mp h).imp id hreason)
  · exact (ends_iff_of_ok hrun).mpr (hends a w' ((ends_iff_of_ok hrun).mp h))

/-- A program that runs as another one does in a world with the same files and the same output. -/
lemma ends_of_run_eq {other : ExceptT Failure (StateM World) α}
    (h : w.run program = w'.run other) (hkept : w.Kept w') (hother : w'.Ends other Q reason) :
    w.Ends program Q reason := by
  rcases hrun : w'.run other with ⟨failure | a, w''⟩
  · exact (ends_iff_of_error (h.trans hrun)).mpr
      (((ends_iff_of_error hrun).mp hother).imp hkept.trans id)
  · exact (ends_iff_of_ok (h.trans hrun)).mpr ((ends_iff_of_ok hrun).mp hother)

/-- As long as the first program keeps everything, the second may fail. -/
lemma Ends.bind {next : α → ExceptT Failure (StateM World) β} {R : β → World → Prop}
    {reason' : Prop} (h : w.Ends program Q reason) (hreason : reason → reason')
    (hnext : ∀ a w', Q a w' → w.Kept w' ∧ w'.Ends (next a) R reason') :
    w.Ends (program >>= next) R reason' := by
  rcases hrun : w.run program with ⟨failure | a, w'⟩
  · exact (ends_iff_of_error (run_bind_of_error hrun next)).mpr
      (((ends_iff_of_error hrun).mp h).imp id hreason)
  · obtain ⟨hkept, hends⟩ := hnext a w' ((ends_iff_of_ok hrun).mp h)
    exact ends_of_run_eq (run_bind_of_ok hrun next) hkept hends

lemma ends_pureStep (w : World) (result : Except Failure α) :
    w.Ends (pureStep result) (fun a w' => w' = w ∧ result = .ok a) (∀ a, result ≠ .ok a) := by
  rw [Ends, run_pureStep]
  cases result with
  | error failure => exact ⟨.refl w, nofun⟩
  | ok a => exact ⟨rfl, rfl⟩

lemma ends_fileStep {action : StateM World (Except FileFault α)} {result : Except FileFault α}
    (h : action.run w = (result, w')) (hfault : ∀ fault, result = .error fault → w.Kept w')
    (context : String) : w.Ends (fileStep context action)
      (fun a w'' => w'' = w' ∧ result = .ok a) (∀ a, result ≠ .ok a) := by
  rw [Ends, run, fileStep, ExceptT.run_mk, StateT.run_bind, h]
  cases result with
  | error fault => exact ⟨hfault fault rfl, nofun⟩
  | ok a => exact ⟨rfl, rfl⟩

/-- A request that fails and changes nothing. -/
lemma ends_fileStep_of_error {action : StateM World (Except FileFault α)} {fault : FileFault}
    (h : action.run w = (.error fault, w)) (context : String) (hreason : reason) :
    w.Ends (fileStep context action) Q reason := by
  rw [Ends, run, fileStep, ExceptT.run_mk, StateT.run_bind, h]
  exact ⟨.refl w, hreason⟩

end Ends

end Placeholders.World
