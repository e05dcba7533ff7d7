import KubeHcl.Proofs.Names
import KubeHcl.Proofs.RenderOutcome
import Mathlib.Data.List.Nodup

/-!
# The turns of a rendering

When all resources are rendered, position `n` is rewritten in the collection that the rewrites of
the positions before it left. What was rendered after `n` turns is an invariant of the loop, and
when the loop ends early, it does so in the turn after some number of successful ones.
-/

namespace KubeHcl

variable {config : Config} {c c' : Collection}

/-- The names under which the resources are declared, in order. -/
def Collection.names (c : Collection) : List String := c.resources.map Naming.identifier

/-- A rewrite renames nothing. -/
theorem RewriteStep.names_eq {index : Nat} {result : Except TransformError Renderable}
    (hstep : RewriteStep config c index result c') : c'.names = c.names := by
  refine List.ext_getElem? fun i => ?_
  rw [Collection.names, Collection.names, List.getElem?_map, List.getElem?_map]
  change (c'.get? i).map Naming.identifier = (c.get? i).map Naming.identifier
  cases hget : c.get? i with
  | none =>
    have hle : c.size ≤ i := List.getElem?_eq_none_iff.mp hget
    rw [← hstep.frame.1] at hle
    have hget' : c'.get? i = none := List.getElem?_eq_none_iff.mpr hle
    rw [hget']
  | some r =>
    obtain ⟨r', hget', hrewritten⟩ := hstep.rewritten_everywhere hget
    rw [hget', Option.map_some, Option.map_some, hrewritten.identifier_eq]

namespace Collection

/-- The collection after the first `n` positions were rewritten in turn. -/
def rewrittenUpTo (config : Config) (c : Collection) : Nat → Collection
  | 0 => c
  | n + 1 => ((rewrite config n).outcome (c.rewrittenUpTo config n)).2

/-- What the rewrite of position `n` comes to in its turn. -/
theorem rewriteStep_rewrittenUpTo (config : Config) (c : Collection) (n : Nat) :
    RewriteStep config (c.rewrittenUpTo config n) n
      ((rewrite config n).outcome (c.rewrittenUpTo config n)).1 (c.rewrittenUpTo config (n + 1)) :=
  rewrite_outcome_iff.mp rfl

/-- What a rewrite comes to when it is the turn of its position, the turn comes to. -/
theorem eq_of_rewriteStep {n : Nat} {result : Except TransformError Renderable}
    (hstep : RewriteStep config (c.rewrittenUpTo config n) n result c') :
    ((rewrite config n).outcome (c.rewrittenUpTo config n)).1 = result ∧
      c.rewrittenUpTo config (n + 1) = c' := by
  have hout := rewrite_outcome_iff.mpr hstep
  exact ⟨congrArg Prod.fst hout, congrArg Prod.snd hout⟩

/-- Rewriting positions in turn keeps their number. -/
theorem size_rewrittenUpTo (config : Config) (c : Collection) (n : Nat) :
    (c.rewrittenUpTo config n).size = c.size := by
  induction n with
  | zero => rfl
  | succ n ih => rw [(rewriteStep_rewrittenUpTo config c n).frame.1, ih]

/-- A position that had no turn yet is as it was. -/
theorem get?_rewrittenUpTo_of_le (config : Config) {n i : Nat} (hle : n ≤ i) :
    (c.rewrittenUpTo config n).get? i = c.get? i := by
  induction n with
  | zero => rfl
  | succ n ih =>
    rw [(rewriteStep_rewrittenUpTo config c n).frame.2 i (by omega), ih (by omega)]

/-- After its turn a position stays as that turn left it. -/
theorem get?_rewrittenUpTo_of_lt {n i : Nat} (hlt : i < n) :
    (c.rewrittenUpTo config n).get? i = (c.rewrittenUpTo config (i + 1)).get? i := by
  induction n with
  | zero => omega
  | succ n ih =>
    by_cases heq : i = n
    · rw [heq]
    · rw [(rewriteStep_rewrittenUpTo config c n).frame.2 i heq, ih (by omega)]

/-- Before and after its turn, a position holds what one rewrite may make of what it held at first.
-/
theorem rewritten_rewrittenUpTo (config : Config) (n : Nat) {i : Nat} {r r' : Resource}
    (hget : c.get? i = some r) (hget' : (c.rewrittenUpTo config n).get? i = some r') :
    r.Rewritten r' := by
  by_cases hlt : i < n
  · rw [get?_rewrittenUpTo_of_lt hlt] at hget'
    rw [← get?_rewrittenUpTo_of_le config (Nat.le_refl i)] at hget
    obtain ⟨_, hafter, hrewritten⟩ := (c.rewriteStep_rewrittenUpTo config i).rewritten hget
    obtain rfl := Option.some.inj (hafter.symm.trans hget')
    exact hrewritten
  · rw [get?_rewrittenUpTo_of_le config (by omega)] at hget'
    obtain rfl := Option.some.inj (hget.symm.trans hget')
    exact .same

end Collection

/-- In its turn, position `i` is rewritten to `x` and rendered to `text`. -/
def RendersAt (config : Config) (c : Collection) (i : Nat) (x : Renderable) (text : String) :
    Prop :=
  ((rewrite config i).outcome (c.rewrittenUpTo config i)).1 = .ok x ∧ x.render config = .ok text

namespace RendersAt

variable {i : Nat} {x y : Renderable} {text s : String}

/-- The rewrite in the turn. -/
theorem step (h : RendersAt config c i x text) :
    RewriteStep config (c.rewrittenUpTo config i) i (.ok x) (c.rewrittenUpTo config (i + 1)) :=
  h.1 ▸ c.rewriteStep_rewrittenUpTo config i

/-- A turn comes to one thing only. -/
theorem unique (hx : RendersAt config c i x text) (hy : RendersAt config c i y s) :
    x = y ∧ text = s := by
  have hxy : x = y := Except.ok.inj (hx.1.symm.trans hy.1)
  subst hxy
  exact ⟨rfl, Except.ok.inj (hx.2.symm.trans hy.2)⟩

/-- What is rendered in a turn is named like the resource that stood there from the start. -/
theorem named (h : RendersAt config c i x text) :
    ∃ r, c.get? i = some r ∧ x.identifier = Naming.identifier r := by
  obtain ⟨r, hget, hidentifier, -⟩ := h.step.stored
  rw [Collection.get?_rewrittenUpTo_of_le config (Nat.le_refl i)] at hget
  exact ⟨r, hget, hidentifier⟩

/-- The same by the list of names. -/
theorem names_eq (h : RendersAt config c i x text) : c.names[i]? = some x.identifier := by
  obtain ⟨r, hget, hidentifier⟩ := h.named
  rw [Collection.names, List.getElem?_map, hidentifier]
  exact congrArg (Option.map Naming.identifier) hget

end RendersAt

/-- The files after `n` successful turns. -/
structure RenderedUpTo (config : Config) (c : Collection) (n : Nat) (files : Files) : Prop where
  /-- There is one file for each turn. -/
  length_eq : files.length = n + 2
  /-- The fixed files come first. -/
  fixed : files.take 2 = fixedFiles config
  /-- The others are what the turns rendered, in order. -/
  rendered : ∀ i < n, ∃ x text, RendersAt config c i x text ∧
    files[i + 2]? = some (x.identifier, text)
  /-- No name was given twice. -/
  nodup : (files.map Prod.fst).Nodup

namespace RenderedUpTo

variable {n : Nat} {files : Files}

/-- Before the first turn there are the fixed files. -/
theorem start (config : Config) (c : Collection) : RenderedUpTo config c 0 (fixedFiles config) where
  length_eq := rfl
  fixed := rfl
  rendered := by
    intro i hi
    omega
  nodup := by
    have hstems : (fixedFiles config).map Prod.fst = [mainStem, variablesStem] := rfl
    rw [hstems]
    decide

/-- A successful turn with a name that is free adds one file. -/
theorem next (h : RenderedUpTo config c n files) {x : Renderable} {text : String}
    (hturn : RendersAt config c n x text) (hfree : x.identifier ∉ files.map Prod.fst) :
    RenderedUpTo config c (n + 1) (files ++ [(x.identifier, text)]) where
  length_eq := by
    rw [List.length_append, h.length_eq]
    rfl
  fixed := by
    have hlength := h.length_eq
    rw [List.take_append_of_le_length (by omega), h.fixed]
  rendered := by
    intro i hi
    have hlength := h.length_eq
    by_cases hlast : i = n
    · subst hlast
      refine ⟨x, text, hturn, ?_⟩
      rw [← hlength, List.getElem?_concat_length]
    · obtain ⟨y, s, hy, hfile⟩ := h.rendered i (by omega)
      refine ⟨y, s, hy, ?_⟩
      rw [List.getElem?_append_left (by omega), hfile]
  nodup := by
    have hnames : (files ++ [(x.identifier, text)]).map Prod.fst =
        (files.map Prod.fst).concat x.identifier := by
      simp
    rw [hnames]
    exact List.Nodup.concat hfree h.nodup

/-- The files are called like the fixed ones and, after these, like the resources. -/
theorem names_eq (h : RenderedUpTo config c n files) :
    files.map Prod.fst = mainStem :: variablesStem :: c.names.take n := by
  have hlength := h.length_eq
  have hsplit : files.map Prod.fst = (files.take 2 ++ files.drop 2).map Prod.fst := by
    rw [List.take_append_drop]
  have hrest : (files.drop 2).map Prod.fst = c.names.take n := by
    refine List.ext_getElem? fun i => ?_
    by_cases hi : i < n
    · obtain ⟨x, text, hturn, hfile⟩ := h.rendered i hi
      rw [List.getElem?_map, List.getElem?_drop, Nat.add_comm, hfile, List.getElem?_take_of_lt hi,
        hturn.names_eq]
      rfl
    · have hshort : ((files.drop 2).map Prod.fst).length ≤ i := by
        rw [List.length_map, List.length_drop]
        omega
      have htake : (c.names.take n).length ≤ i := by
        rw [List.length_take]
        omega
      rw [List.getElem?_eq_none hshort, List.getElem?_eq_none htake]
  rw [hsplit, h.fixed, List.map_append, hrest]
  rfl

end RenderedUpTo

/-- Where the loop stops that goes on after `n` successful turns: behind the last position with all
files, or in some turn with the failure of that turn. -/
theorem RenderSteps.stops {n m : Nat} {files : Files} {result : Except TransformError Files}
    (hsteps : RenderSteps config (List.range' n m) files (c.rewrittenUpTo config n) result c')
    (hfiles : RenderedUpTo config c n files) :
    (∃ files', result = .ok files' ∧ RenderedUpTo config c (n + m) files' ∧
        c' = c.rewrittenUpTo config (n + m)) ∨
      ∃ k files' e, k < n + m ∧ result = .error e ∧ RenderedUpTo config c k files' ∧
        RenderStep config files' k (c.rewrittenUpTo config k) (.error e) c' := by
  induction m generalizing n files with
  | zero =>
    cases hsteps with
    | done => exact .inl ⟨files, rfl, hfiles, rfl⟩
  | succ m ih =>
    rw [List.range'_succ] at hsteps
    cases hsteps with
    | failed hstep => exact .inr ⟨n, files, _, by omega, rfl, hfiles, hstep⟩
    | next hstep hrest =>
      cases hstep with
      | added hrewrite hrender hfree =>
        -- A successful turn leaves what is called the collection after one more turn.
        obtain ⟨hresult, rfl⟩ := Collection.eq_of_rewriteStep hrewrite
        have hturn : RendersAt config c n _ _ := ⟨hresult, hrender⟩
        have hcount : n + 1 + m = n + (m + 1) := by omega
        rw [← hcount]
        exact ih hrest (hfiles.next hturn hfree)

/-- Rendering all resources succeeds with the files of all turns. -/
theorem renderAll_ok {files : Files} (hok : (renderAll config).outcome c = (.ok files, c')) :
    config.AliasValid ∧ RenderedUpTo config c c.size files ∧
      c' = c.rewrittenUpTo config c.size := by
  rcases renderAll_steps hok with ⟨-, hresult, -⟩ | ⟨hvalid, hsteps⟩
  · cases hresult
  · rw [List.range_eq_range'] at hsteps
    rcases hsteps.stops (.start config c) with ⟨files', hresult, hfiles, hc'⟩ | hstopped
    · cases hresult
      rw [Nat.zero_add] at hfiles hc'
      exact ⟨hvalid, hfiles, hc'⟩
    · obtain ⟨_, _, _, _, hresult, -⟩ := hstopped
      cases hresult

/-- Rendering all resources fails without a valid alias, or in the turn after some successful ones.
-/
theorem renderAll_error {e : TransformError}
    (herror : (renderAll config).outcome c = (.error e, c')) :
    (¬config.AliasValid ∧ e = .formatting mainStem ∧ c' = c) ∨
      (config.AliasValid ∧ ∃ k files, k < c.size ∧ RenderedUpTo config c k files ∧
        RenderStep config files k (c.rewrittenUpTo config k) (.error e) c') := by
  rcases renderAll_steps herror with ⟨hinvalid, hresult, hc'⟩ | ⟨hvalid, hsteps⟩
  · cases hresult
    exact .inl ⟨hinvalid, rfl, hc'⟩
  · rw [List.range_eq_range'] at hsteps
    rcases hsteps.stops (.start config c) with ⟨_, hresult, -⟩ | hstopped
    · cases hresult
    · obtain ⟨k, files, e', hk, hresult, hfiles, hstep⟩ := hstopped
      cases hresult
      rw [Nat.zero_add] at hk
      exact .inr ⟨hvalid, k, files, hk, hfiles, hstep⟩

end KubeHcl
