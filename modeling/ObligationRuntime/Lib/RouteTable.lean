/-
  ObligationRuntime.Lib.RouteTable — path templates, and the first route that matches.

  A template is a text whose segments in braces are holes.  Filled in (`fill`) it is a
  path; a path matches it where the literal segments are the same and no hole is empty.  A
  request goes to the first route of its method that matches.

  A client that fills in the template of a route reaches that route, whatever the values
  are, when the other routes of the method are `apart` from it: of another length, or with
  another literal at the same place.

  Main results:
    * `matchSegments_fill` — a filled template matches, and gives the values back,
    * `matchSegments_apart` — it matches no template that is apart,
    * `fill_append` — a text in front of a template,
    * `lookup_fill` — the route of a filled template,
    * `lookup_notFound` — a path that has none.
-/
import ObligationRuntime.Lib.Path

namespace Route

/-! ## §1. Templates. -/

/-- A segment of a template. -/
inductive Segment where
  | lit (text : List Char)
  | hole (name : List Char)
  deriving DecidableEq, Repr

/-- The segment that a text stands for: in braces it is a hole. -/
def Segment.read : List Char → Segment
  | '{' :: text =>
      if text.getLast? = some '}' then .hole text.dropLast else .lit ('{' :: text)
  | text => .lit text

/-- The segments of a path. -/
def segments (path : String) : List (List Char) := path.toList.splitOn '/'

/-- The segments of a template. -/
def template (text : String) : List Segment := (segments text).map Segment.read

/-- The path of segments. -/
def path (ss : List (List Char)) : String := String.ofList (List.intercalate ['/'] ss)

/-- The values of the holes, by name. -/
abbrev Values := List Char → Option (List Char)

/-- A segment with its value: a hole without one is an error. -/
def Segment.fill (values : Values) : Segment → Option (List Char)
  | .lit text => some text
  | .hole name => values name

/-- `template.format(..)`, by segments. -/
def fillSegments (values : Values) (t : List Segment) : Option (List (List Char)) :=
  t.mapM (Segment.fill values)

/-- `template.format(..)`. -/
def fill (values : Values) (text : String) : Option String :=
  (fillSegments values (template text)).map path

/-- What a path binds: each hole with the segment at its place. -/
def matchSegments : List Segment → List (List Char) → Option (List (List Char × List Char))
  | [], [] => some []
  | .lit text :: t, s :: ss => if s = text then matchSegments t ss else none
  | .hole name :: t, s :: ss =>
      if s = [] then none else (matchSegments t ss).map fun bound => (name, s) :: bound
  | _, _ => none

/-- Two segments with different literals. -/
def Segment.differs : Segment → Segment → Bool
  | .lit a, .lit b => a ≠ b
  | _, _ => false

/-- No path matches both: they have different lengths, or different literals at one place. -/
def apart (t t' : List Segment) : Bool :=
  decide (t.length ≠ t'.length) || (List.zipWith Segment.differs t t').any id

/-! ## §2. A filled template. -/

section

variable {values : Values} {t : List Segment} {ss : List (List Char)}

/-- The values can stand in a path: none is empty, and none has a slash. -/
def Fitting (values : Values) : Prop :=
  ∀ name v, values name = some v → v ≠ [] ∧ '/' ∉ v

/-- What the holes of a template are bound to. -/
def bindings (values : Values) (t : List Segment) : List (List Char × List Char) :=
  t.filterMap fun seg =>
    match seg with
    | .lit _ => none
    | .hole name => (values name).map (Prod.mk name)

/-- A template is filled segment by segment. -/
theorem fillSegments_cons {seg : Segment} (h : fillSegments values (seg :: t) = some ss) :
    ∃ s rest, seg.fill values = some s ∧ fillSegments values t = some rest ∧ ss = s :: rest := by
  unfold fillSegments at h
  rw [List.mapM_cons] at h
  cases hs : seg.fill values with
  | none => rw [hs] at h; cases h
  | some s =>
      rw [hs] at h
      cases hrest : t.mapM (Segment.fill values) with
      | none => simp [hrest] at h
      | some rest =>
          simp only [hrest, Option.pure_def, Option.bind_eq_bind, Option.bind_some] at h
          exact ⟨s, rest, rfl, hrest, (Option.some.inj h).symm⟩

theorem fillSegments_nil (h : fillSegments values [] = some ss) : ss = [] :=
  (Option.some.inj h).symm

/-- As many segments are written as the template has, -/
theorem length_fillSegments (h : fillSegments values t = some ss) : ss.length = t.length := by
  induction t generalizing ss with
  | nil => rw [fillSegments_nil h]; rfl
  | cons seg t ih =>
      obtain ⟨s, rest, -, hrest, rfl⟩ := fillSegments_cons h
      rw [List.length_cons, List.length_cons, ih hrest]

/-- **A filled template matches**, and gives the values back. -/
theorem matchSegments_fill (hv : Fitting values) (h : fillSegments values t = some ss) :
    matchSegments t ss = some (bindings values t) := by
  induction t generalizing ss with
  | nil => rw [fillSegments_nil h]; rfl
  | cons seg t ih =>
      obtain ⟨s, rest, hs, hrest, rfl⟩ := fillSegments_cons h
      cases seg with
      | lit text =>
          obtain rfl := Option.some.inj hs
          rw [matchSegments, if_pos rfl, ih hrest]
          rfl
      | hole name =>
          have hvalue : values name = some s := hs
          rw [matchSegments, if_neg (hv name s hvalue).1, ih hrest]
          simp [bindings, hvalue]

/-- and only as many are matched. -/
theorem matchSegments_length {t' : List Segment} (h : (matchSegments t' ss).isSome) :
    t'.length = ss.length := by
  induction t' generalizing ss with
  | nil =>
      cases ss with
      | nil => rfl
      | cons s ss => cases h
  | cons seg t' ih =>
      cases ss with
      | nil => cases seg <;> cases h
      | cons s ss =>
          rw [List.length_cons, List.length_cons, Nat.add_right_cancel_iff]
          cases seg with
          | lit text =>
              rw [matchSegments] at h
              split at h
              · exact ih h
              · cases h
          | hole name =>
              rw [matchSegments] at h
              split at h
              · cases h
              · exact ih (by simpa using h)

/-- **No other template matches**: one with another literal at some place. -/
theorem matchSegments_differs {t' : List Segment} (h : fillSegments values t = some ss)
    (hdiffers : (List.zipWith Segment.differs t t').any id = true) :
    matchSegments t' ss = none := by
  induction t generalizing t' ss with
  | nil => simp at hdiffers
  | cons seg t ih =>
      obtain ⟨s, rest, hs, hrest, rfl⟩ := fillSegments_cons h
      cases t' with
      | nil => simp at hdiffers
      | cons seg' t' =>
          rw [List.zipWith_cons_cons, List.any_cons, Bool.or_eq_true, id_eq] at hdiffers
          cases seg' with
          | lit text' =>
              rw [matchSegments]
              split
              next heq =>
                -- The literals agree here: they differ further on.
                refine ih hrest (hdiffers.resolve_left fun hhead => ?_)
                cases seg with
                | lit text =>
                    obtain rfl := Option.some.inj hs
                    exact (of_decide_eq_true hhead) heq
                | hole name => cases hhead
              · rfl
          | hole name' =>
              have htail : (List.zipWith Segment.differs t t').any id = true := by
                refine hdiffers.resolve_left fun hhead => ?_
                cases seg <;> cases hhead
              rw [matchSegments, ih hrest htail]
              split <;> rfl

/-- A path of one template is none of a template apart from it. -/
theorem matchSegments_apart {t' : List Segment} (h : fillSegments values t = some ss)
    (hapart : apart t t' = true) : matchSegments t' ss = none := by
  rcases Bool.or_eq_true _ _ |>.mp hapart with hlength | hdiffers
  · have hne : t.length ≠ t'.length := of_decide_eq_true hlength
    cases hmatch : matchSegments t' ss with
    | none => rfl
    | some bound =>
        have hsome : (matchSegments t' ss).isSome = true := by rw [hmatch]; rfl
        have hsame := matchSegments_length hsome
        rw [length_fillSegments h] at hsame
        exact absurd hsame.symm hne
  · exact matchSegments_differs h hdiffers

/-- What holds of the literals and of the values holds of every segment. -/
theorem forall_mem_fillSegments {P : List Char → Prop}
    (hv : ∀ name v, values name = some v → P v) (hlit : ∀ text, .lit text ∈ t → P text)
    (h : fillSegments values t = some ss) : ∀ s ∈ ss, P s := by
  induction t generalizing ss with
  | nil =>
      rw [fillSegments_nil h]
      simp
  | cons seg t ih =>
      obtain ⟨s, rest, hs, hrest, rfl⟩ := fillSegments_cons h
      have htail := ih (fun text htext => hlit text (List.mem_cons_of_mem _ htext)) hrest
      rw [List.forall_mem_cons]
      refine ⟨?_, htail⟩
      cases seg with
      | lit text =>
          obtain rfl := Option.some.inj hs
          exact hlit text (List.mem_cons_self ..)
      | hole name => exact hv name s hs

/-- A literal of a template is a segment of it. -/
theorem lit_template {text : String} {literal : List Char} (h : .lit literal ∈ template text) :
    literal ∈ segments text := by
  obtain ⟨s, hs, hread⟩ := List.mem_map.mp h
  unfold Segment.read at hread
  split at hread
  · split at hread
    · cases hread
    · obtain rfl := Segment.lit.inj hread
      exact hs
  · obtain rfl := Segment.lit.inj hread
    exact hs

/-- The segments of a filled template are those of its path, where no literal has a slash. -/
theorem segments_path (hv : Fitting values) (hlit : ∀ text, .lit text ∈ t → '/' ∉ text)
    (h : fillSegments values t = some ss) (hne : t ≠ []) : segments (path ss) = ss := by
  have hslash : ∀ s ∈ ss, '/' ∉ s :=
    forall_mem_fillSegments (fun name v hvalue => (hv name v hvalue).2) hlit h
  have hss : ss ≠ [] := by
    intro hnil
    have hlength := length_fillSegments h
    rw [hnil] at hlength
    exact hne (List.length_eq_zero_iff.mp hlength.symm)
  rw [segments, path, String.toList_ofList]
  exact List.splitOn_intercalate '/' hslash hss

/-- Literals in front of a template stay as they are. -/
theorem fillSegments_lit (values : Values) (xs : List (List Char)) (t : List Segment) :
    fillSegments values (xs.map .lit ++ t) = (fillSegments values t).map (xs ++ ·) := by
  induction xs with
  | nil => simp
  | cons x xs ih =>
      unfold fillSegments at ih ⊢
      rw [List.map_cons, List.cons_append, List.mapM_cons, ih]
      cases t.mapM (Segment.fill values) <;> rfl

theorem intercalate_append {xs ys : List (List Char)} (hx : xs ≠ []) (hy : ys ≠ []) :
    List.intercalate ['/'] (xs ++ ys) =
      List.intercalate ['/'] xs ++ '/' :: List.intercalate ['/'] ys := by
  induction xs with
  | nil => exact absurd rfl hx
  | cons x xs ih =>
      cases xs with
      | nil =>
          obtain ⟨y, ys, rfl⟩ := List.exists_cons_of_ne_nil hy
          simp
      | cons x' xs =>
          have := ih (by simp)
          simp only [List.cons_append] at this ⊢
          simp [this]

/-- A text in front of a template, without holes, stays as it is. -/
theorem fill_append {p t : String} {cs : List Char} (hp : template p = (segments p).map .lit)
    (ht : t.toList = '/' :: cs) :
    fill values (p ++ t) = (fill values t).map (p ++ ·) := by
  have hsegments : segments (p ++ t) = segments p ++ cs.splitOn '/' := by
    rw [segments, String.toList_append, ht, List.splitOn_append_cons_self]
    rfl
  have htemplate : template t = .lit [] :: (cs.splitOn '/').map Segment.read := by
    have h := List.splitOn_append_cons_self (a := '/') [] cs
    rw [List.nil_append] at h
    rw [template, segments, ht, h]
    rfl
  have hjoined :
      template (p ++ t) = (segments p).map .lit ++ (cs.splitOn '/').map Segment.read := by
    rw [template, hsegments, List.map_append]
    exact congrArg (· ++ _) hp
  have hone := fillSegments_lit values [[]] ((cs.splitOn '/').map Segment.read)
  rw [List.map_cons, List.map_nil, List.singleton_append] at hone
  rw [fill, fill, hjoined, fillSegments_lit, htemplate, hone]
  cases hrest : fillSegments values ((cs.splitOn '/').map Segment.read) with
  | none => rfl
  | some ss =>
      have hne : ss ≠ [] := by
        intro hnil
        have hlength := length_fillSegments hrest
        rw [hnil, List.length_map] at hlength
        exact List.splitOn_ne_nil '/' cs (List.length_eq_zero_iff.mp hlength.symm)
      have hp' : segments p ≠ [] := List.splitOn_ne_nil '/' p.toList
      have hps : List.intercalate ['/'] (segments p) = p.toList :=
        List.intercalate_splitOn '/'
      simp only [Option.map_some, Option.some.injEq, path]
      rw [intercalate_append hp' hne, hps,
        intercalate_append (List.cons_ne_nil _ _) hne]
      apply String.toList_injective
      simp

end

/-! ## §3. Tables. -/

section

variable {M E : Type} [DecidableEq M]

/-- A route. -/
structure Entry (M E : Type) where
  method : M
  text : String
  endpoint : E

/-- Where a request goes. -/
inductive Found (E : Type) where
  | route (endpoint : E) (bound : List (List Char × List Char))
  | methodNotAllowed
  | notFound

/-- What a route makes of a path. -/
def Entry.bound (r : Entry M E) (ss : List (List Char)) : Option (List (List Char × List Char)) :=
  matchSegments (template r.text) ss

/-- The route of a request, if it is this one. -/
def Entry.takes (r : Entry M E) (method : M) (ss : List (List Char)) :
    Option (E × List (List Char × List Char)) :=
  if r.method = method then (r.bound ss).map (Prod.mk r.endpoint) else none

/-- The first route of the method that matches. -/
def lookup (table : List (Entry M E)) (method : M) (request : String) : Found E :=
  match table.findSome? fun r => r.takes method (segments request) with
  | some (endpoint, bound) => .route endpoint bound
  | none =>
      if table.any fun r => (r.bound (segments request)).isSome then .methodNotAllowed
      else .notFound

/-- Routes of one method do not compete for a path. -/
def Separated (table : List (Entry M E)) : Prop :=
  table.Pairwise fun r r' =>
    r.method = r'.method → apart (template r'.text) (template r.text) = true

instance (table : List (Entry M E)) : Decidable (Separated table) :=
  inferInstanceAs (Decidable (List.Pairwise _ _))

/-- **A filled template reaches its route**, in a table whose routes do not compete. -/
theorem lookup_fill {table : List (Entry M E)} (hsep : Separated table) {r : Entry M E}
    (hr : r ∈ table) {values : Values} (hv : Fitting values) {request : String}
    (h : fill values r.text = some request) :
    lookup table r.method request = .route r.endpoint (bindings values (template r.text)) := by
  obtain ⟨ss, hss, rfl⟩ := Option.map_eq_some_iff.mp h
  have hne : template r.text ≠ [] :=
    fun hnil => List.splitOn_ne_nil '/' r.text.toList (List.map_eq_nil_iff.mp hnil)
  have hsegments : segments (path ss) = ss :=
    segments_path hv (fun text htext => Posix.splitOn_no_sep '/' _ _ (lit_template htext)) hss hne
  have hfind : table.findSome? (fun r' => r'.takes r.method ss) =
      some (r.endpoint, bindings values (template r.text)) := by
    clear h
    induction table with
    | nil => cases hr
    | cons r' table ih =>
        rw [List.findSome?_cons]
        obtain ⟨hhead, htail⟩ := List.pairwise_cons.mp hsep
        rcases List.mem_cons.mp hr with rfl | hmem
        · rw [Entry.takes, if_pos rfl, Entry.bound, matchSegments_fill hv hss]
          rfl
        · -- An earlier route has another method, or is apart.
          have hnone : r'.takes r.method ss = none := by
            unfold Entry.takes
            split
            next hmethod =>
              rw [Entry.bound, matchSegments_apart hss (hhead r hmem hmethod)]
              rfl
            · rfl
          rw [hnone]
          exact ih htail hmem
  rw [lookup, hsegments, hfind]

/-- **A path is not found** when every route is apart from its template. -/
theorem lookup_notFound {table : List (Entry M E)} {values : Values} (hv : Fitting values)
    {t : List Segment} (hlit : ∀ text, .lit text ∈ t → '/' ∉ text) (hne : t ≠ [])
    {ss : List (List Char)} (h : fillSegments values t = some ss)
    (hapart : ∀ r ∈ table, apart t (template r.text) = true) (method : M) :
    lookup table method (path ss) = .notFound := by
  have hsegments := segments_path hv hlit h hne
  have hbound : ∀ r ∈ table, r.bound ss = none := fun r hr => matchSegments_apart h (hapart r hr)
  have hfind : table.findSome? (fun r => r.takes method ss) = none := by
    rw [List.findSome?_eq_none_iff]
    intro r hr
    unfold Entry.takes
    split
    · rw [hbound r hr]
      rfl
    · rfl
  have hany : (table.any fun r => (r.bound ss).isSome) = false := by
    rw [List.any_eq_false]
    intro r hr
    rw [hbound r hr]
    exact Bool.false_ne_true
  rw [lookup, hsegments, hfind, hany]
  rfl

end

end Route
