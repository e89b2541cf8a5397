import Placeholders.Proofs.Config.Build
import Placeholders.Proofs.FileSystem
import Placeholders.Proofs.Host
import Placeholders.Proofs.Source

/-!
# Rendering is resolving once

There are two ways from a configuration to a text.  Rendering finds configuration and values in
files, talks to the user and writes the text somewhere; resolving once takes both as they are and
gives the text back.  They come to the same text or to the same failure.

* `withPairs_of_objectOf` — pairs are put into the object of a file one after the other.
* `resolveOnce_eq` — resolving once is building and resolving, as rendering does them.
* `World.Holds`, `World.Received` — where the values come from, and where the text goes.
* `run_loadConfig`, `exists_run_collectSource`, `exists_run_writeResult` — the steps of rendering
  that look at the world.
* **`run_render_eq_resolveOnce`** — rendering ends as resolving once does, and the text is written
  with a line break, or nothing is.
-/

namespace Placeholders

/-! ## Objects that were read -/

lemma Json.ordered_of_map {α : Type} {read : Option (α × List Char)} {f : α → Json}
    (hf : ∀ a, (f a).Ordered) {v : Json} {rest : List Char}
    (h : (read.map fun (a, rest) => (f a, rest)) = some (v, rest)) : v.Ordered := by
  obtain ⟨⟨a, _⟩, -, heq⟩ := Option.map_eq_some_iff.mp h
  obtain ⟨rfl, -⟩ := Prod.mk.inj heq
  exact hf a

lemma Json.ordered_of_readScalar {cs rest : List Char} {v : Json}
    (h : readScalar cs = some (v, rest)) : v.Ordered := by
  rw [readScalar.eq_def] at h
  split at h
  · exact ordered_of_map (f := .string) (fun _ => trivial) h
  · cases h; trivial
  · cases h; trivial
  · cases h; trivial
  · exact ordered_of_map (f := .number) (fun _ => trivial) h

lemma Json.ordered_of_readValue {depth : Nat} {cs rest : List Char} {v : Json}
    (h : readValue depth cs = some (v, rest)) : v.Ordered := by
  cases depth with
  | zero =>
      rw [readValue] at h
      split at h
      · cases h
      · cases h
      · exact ordered_of_readScalar h
  | succ depth =>
      rw [readValue] at h
      split at h
      · exact ordered_of_map (f := .array) (fun _ => trivial) h
      · exact ordered_of_map (f := ofFields) ordered_ofFields h
      · exact ordered_of_readScalar h

/-- The fields of an object that was read ascend by key. -/
lemma ordered_of_objectOf {text : String} {fields : List (String × Json)}
    (h : objectOf text = .ok fields) : (Json.object fields).Ordered := by
  rw [objectOf] at h
  split at h
  next => cases h
  next found hread =>
    obtain rfl := Except.ok.inj h
    rw [Json.read?] at hread
    split at hread
    next v rest hvalue =>
      split_ifs at hread
      obtain rfl := Option.some.inj hread
      exact Json.ordered_of_readValue hvalue
    next => cases hread
  next => cases h

/-- **Pairs are put into the object of a text one after the other.** -/
theorem withPairs_of_objectOf {text : String} {fields : List (String × Json)}
    (h : objectOf text = .ok fields) (pairs : List (String × String)) :
    withPairs fields pairs
      = .object (pairs.foldl (fun fields p => Assoc.insert p.1 (.string p.2) fields) fields) := by
  have hfields : Assoc.ofList fields = fields := Assoc.ofList_of_ascending (ordered_of_objectOf h)
  rw [Assoc.ofList] at hfields
  rw [withPairs, Json.ofFields, Assoc.ofList, List.foldl_append, hfields, List.foldl_map]

/-! ## Resolving once -/

lemma target_of_buildFor {c : Config} {r : Resolver} (h : buildFor c = .ok r) :
    r.target = c.target := by
  rw [buildFor] at h
  cases hbuild : c.build .builtin with
  | error fault => simp [hbuild, orFail, failFor, inContext] at h
  | ok built =>
      simp only [hbuild, orFail, inContext] at h
      exact Except.ok.inj h ▸ Config.target_of_build hbuild

/-- Resolving once is building and resolving, and both name the same target if they fail. -/
lemma resolveOnce_eq (c : Config) (pairs : List (String × String)) :
    resolveOnce c pairs = buildFor c >>= fun r => resolveFor r (Source.ofPairs pairs) := by
  rw [resolveOnce]
  cases hbuild : buildFor c with
  | error failure => rfl
  | ok r =>
      simp only [bind, Except.bind, resolveFor, Resolver.resolvePairs, target_of_buildFor hbuild]

/-! ## Steps of rendering -/

lemma Config.ofYaml_eq_ok_iff {text : String} {c : Config} :
    ofYaml text = .ok c ↔ ofYaml? text = some c ∧ c.check = .ok () := by
  rw [ofYaml]
  cases ofYaml? text with
  | none => exact iff_of_false nofun nofun
  | some found =>
      dsimp only
      cases hcheck : found.check with
      | error problems =>
          refine iff_of_false nofun ?_
          rintro ⟨hfound, hc⟩
          rw [Option.some.inj hfound, hc] at hcheck
          cases hcheck
      | ok _ =>
          constructor
          · intro h
            obtain rfl := Except.ok.inj h
            exact ⟨rfl, hcheck⟩
          · rintro ⟨hfound, -⟩
            rw [Option.some.inj hfound]

namespace World

/-- The user's source holds these values and nothing else. -/
def Holds (w : World) (entries : List (String × String)) : Option ObjectSource → Prop
  | none => entries = []
  | some .input => objectOf w.input = .ok (entries.map fun p => (p.1, .string p.2))
  | some (.file name) => ∃ text, w.files.read name = .ok text
      ∧ objectOf text = .ok (entries.map fun p => (p.1, .string p.2))

/-- A text went to a file, which holds it now, or else to the output.  Nothing else was written. -/
def Received (w w' : World) (text : String) : Option String → Prop
  | none => w'.output = w.output ++ text ∧ w'.files = w.files
  | some name => w.files.write name text = .ok w'.files ∧ w'.files.read name = .ok text
      ∧ w'.output = w.output

variable {w w' : World}

/-- What a text is received by may have seen messages before. -/
lemma Received.of_kept {w₁ : World} {text : String} {output? : Option String}
    (h : w₁.Received w' text output?) (hkept : w.Kept w₁) : w.Received w' text output? := by
  cases output? with
  | none => exact ⟨hkept.output ▸ h.1, h.2.trans hkept.files⟩
  | some name => exact ⟨hkept.files ▸ h.1, h.2.1, h.2.2.trans hkept.output⟩

lemma run_loadConfig {name text : String} {c : Config} (hread : w.files.read name = .ok text)
    (hload : Config.ofYaml text = .ok c) : w.run (loadConfig World.host name) = (.ok c, w) := by
  have hfile : (World.host.readFile name).run w = (.ok text, w) := by rw [run_readFile, hread]
  rw [loadConfig, run_bind_of_ok (run_fileStep_of_ok hfile _), run_pureStep, hload, inContext]

lemma exists_run_readObject {entries : List (String × String)} {source : ObjectSource}
    (h : w.Holds entries (some source)) :
    ∃ w', w.run (readObject World.host source)
        = (.ok (entries.map fun p => (p.1, .string p.2)), w') ∧ w.Kept w' := by
  cases source with
  | input =>
      have hinput : World.host.readInput.run w = (.ok w.input, { w with input := "" }) := rfl
      have hobject : objectOf w.input = .ok (entries.map fun p => (p.1, .string p.2)) := h
      refine ⟨{ w with input := "" }, ?_, rfl, rfl⟩
      rw [readObject]
      dsimp only
      rw [run_bind_of_ok (run_fileStep_of_ok hinput _), run_pureStep, hobject]
  | file name =>
      obtain ⟨text, hread, hobject⟩ := h
      have hfile : (World.host.readFile name).run w = (.ok text, w) := by rw [run_readFile, hread]
      refine ⟨w, ?_, .refl w⟩
      rw [readObject]
      dsimp only
      rw [run_bind_of_ok (run_fileStep_of_ok hfile _), run_pureStep, hobject]

/-- The source is what resolving once makes of the values and the pairs behind them. -/
lemma exists_run_collectSource {entries : List (String × String)} {source? : Option ObjectSource}
    (h : w.Holds entries source?) (pairs : List (String × String)) :
    ∃ w', w.run (collectSource World.host source? pairs)
        = (.ok (Source.ofPairs (entries ++ pairs)), w') ∧ w.Kept w' := by
  have hpairs : withPairs (entries.map fun p => (p.1, .string p.2)) pairs
      = Source.ofPairs (entries ++ pairs) := by
    rw [withPairs, Source.ofPairs, List.map_append]
  cases source? with
  | none =>
      obtain rfl : entries = [] := h
      exact ⟨w, rfl, .refl w⟩
  | some source =>
      obtain ⟨w', hrun, hkept⟩ := exists_run_readObject h
      refine ⟨w', ?_, hkept⟩
      rw [collectSource]
      dsimp only
      rw [run_bind_of_ok hrun, run_pure, hpairs]

lemma exists_run_writeResult {o : RenderOptions}
    (houtput : ∀ name, o.output? = some name → w.files.Writable name) (result : String) :
    ∃ w', w.run (writeResult World.host o result) = (.ok (), w')
      ∧ w.Received w' (result ++ "\n") o.output? := by
  rw [writeResult]
  cases hname : o.output? with
  | none => exact ⟨{ w with output := w.output ++ (result ++ "\n") }, rfl, rfl, rfl⟩
  | some name =>
      obtain ⟨w₁, hrun, hkept⟩ := exists_run_unless o.quiet
        (exists_run_report w .info s!"Writing inflected target to file: {name}")
        fun _ => fileStep s!"Failed to create output file: {name}"
          (World.host.writeFile name (result ++ "\n"))
      obtain ⟨files, hfiles⟩ := houtput name hname (result ++ "\n")
      have hwrite : w₁.files.write name (result ++ "\n") = .ok files := hkept.files ▸ hfiles
      refine ⟨{ w₁ with files := files }, ?_, hfiles, FileSystem.read_write hfiles, hkept.output⟩
      exact hrun.trans (run_fileStep_of_ok (run_writeFile hwrite) _)

end World

/-- **Rendering is resolving once.**  With the target and the policy that the user asks for in the
configuration, and the values of the file in front of the pairs, both succeed or both fail, and they
fail with the same causes and contexts.  On success the text and a line break are written; otherwise
nothing is.  Whether the user is told about unbound values makes no difference. -/
theorem run_render_eq_resolveOnce (w : World) (o : RenderOptions) {text : String} {c : Config}
    {entries : List (String × String)}
    (hread : w.files.read o.config = .ok text) (hload : Config.ofYaml text = .ok c)
    (hsource : w.Holds entries o.source?)
    (houtput : ∀ name, o.output? = some name → w.files.Writable name) :
    let c' : Config := { c with
      target := o.target?.getD c.target, strict := if o.lenient then false else c.strict }
    ∃ w', w.run (render World.host o)
        = ((resolveOnce c' (entries ++ o.pairs)).map fun _ => (), w')
      ∧ match resolveOnce c' (entries ++ o.pairs) with
        | .ok result => w.Received w' (result ++ "\n") o.output?
        | .error _ => w.Kept w' := by
  intro c'
  have hadjust : o.adjust c = c' := by
    cases hlenient : o.lenient <;> simp [RenderOptions.adjust, c', hlenient]
  set source := Source.ofPairs (entries ++ o.pairs)
  rw [render, World.run_bind_of_ok (World.run_loadConfig hread hload), hadjust]
  -- rendering builds before it reads values, so a failure to build comes first in both ways
  cases hbuild : buildFor c' with
  | error failure =>
      have honce : resolveOnce c' (entries ++ o.pairs) = .error failure := by
        rw [resolveOnce_eq, hbuild]
        rfl
      rw [honce, World.run_bind_of_error (World.run_pureStep w _)]
      exact ⟨w, rfl, .refl w⟩
  | ok r =>
      have honce : resolveOnce c' (entries ++ o.pairs) = resolveFor r source := by
        rw [resolveOnce_eq, hbuild]
        rfl
      obtain ⟨w₁, hcollect, hkept₁⟩ := World.exists_run_collectSource hsource o.pairs
      obtain ⟨w₂, hwarn, hkept₂⟩ := World.exists_run_unless o.quiet
        (World.exists_run_warnUnbound w₁ (r.unboundKeys source))
        fun _ => pureStep (resolveFor r source) >>= writeResult World.host o
      have hkept := hkept₁.trans hkept₂
      rw [honce, World.run_bind_of_ok (World.run_pureStep w _), World.run_bind_of_ok hcollect]
      dsimp only
      -- from here on the world is one that differs in messages and in what is left of the input
      rw [hwarn]
      cases hresolve : resolveFor r source with
      | error failure =>
          rw [World.run_bind_of_error (World.run_pureStep w₂ _)]
          exact ⟨w₂, rfl, hkept⟩
      | ok result =>
          rw [World.run_bind_of_ok (World.run_pureStep w₂ _)]
          obtain ⟨w', hwrite, hreceived⟩ := World.exists_run_writeResult (w := w₂) (o := o)
            (fun name hname => hkept.files ▸ houtput name hname) result
          exact ⟨w', hwrite, hreceived.of_kept hkept⟩

lemma eq_ok_of_toOption {result : Except Failure String} {text : String}
    (h : result.toOption = some text) : result = .ok text := by
  cases result with
  | error failure => cases h
  | ok found => exact congrArg Except.ok (Option.some.inj h)

/-- A configuration in YAML. -/
def viewsText : String :=
  "target: \":controller\"\nrules:\n  - key: \":controller\"\n    value: lowercase\n" ++
    "  - key: \":action\"\n    value: camel_case_to_dash\n"

/-- The configuration in the text. -/
def views : Config where
  target := ":controller"
  rules := [⟨":controller", .text "lowercase"⟩, ⟨":action", .text "camel_case_to_dash"⟩]

/-- The configuration and some values as files. -/
def desk : World where
  files := .ofList [("views.yml", viewsText),
    ("values.json", "\x7b\"controller\": \"Blog\", \"action\": \"list\"\x7d")]

/-- Asks for a file of its own target, and overrides a value twice. -/
def viewOrder : RenderOptions where
  config := "views.yml"
  target? := some "views/:controller/:action.:suffix"
  pairs := [("action", "edit"), ("action", "listAll")]
  source? := some (.file "values.json")
  lenient := true
  output? := some "view.txt"

theorem run_render_view :
    desk.files.read viewOrder.config = .ok viewsText
      ∧ Config.ofYaml viewsText = .ok views
      ∧ desk.Holds [("action", "list"), ("controller", "Blog")] viewOrder.source?
      ∧ desk.files.Writable "view.txt"
      ∧ ∃ w', desk.run (render World.host viewOrder) = (.ok (), w')
        ∧ w'.files.read "view.txt" = .ok "views/blog/list-All.:suffix\n" := by
  have hread : desk.files.read viewOrder.config = .ok viewsText := by decide +kernel
  have hload : Config.ofYaml viewsText = .ok views :=
    Config.ofYaml_eq_ok_iff.mpr ⟨by decide +kernel, by decide +kernel⟩
  have hsource : desk.Holds [("action", "list"), ("controller", "Blog")] viewOrder.source? :=
    ⟨"\x7b\"controller\": \"Blog\", \"action\": \"list\"\x7d", by decide +kernel, rfl⟩
  have houtput : desk.files.Writable "view.txt" :=
    FileSystem.writable_iff.mpr ⟨["view.txt"], by decide +kernel, by decide +kernel⟩
  have honce : resolveOnce { views with
        target := viewOrder.target?.getD views.target
        strict := if viewOrder.lenient then false else views.strict }
      ([("action", "list"), ("controller", "Blog")] ++ viewOrder.pairs)
        = .ok "views/blog/list-All.:suffix" := eq_ok_of_toOption (by decide +kernel)
  have hrender := run_render_eq_resolveOnce desk viewOrder hread hload hsource
    fun name hname => Option.some.inj hname ▸ houtput
  dsimp only at hrender
  rw [honce] at hrender
  obtain ⟨w', hrun, -, hread', -⟩ := hrender
  exact ⟨hread, hload, hsource, houtput, w', hrun, hread'⟩

end Placeholders
