import LightningDeposit.Proofs.Url.Path

/-!
References: a text that stands at an address may name a scheme of its own, a host, a path, or
nothing but a query or a fragment, and leads to another host in many ways. A text whose first
character is a slash, and whose second one is not, leads to a path of the same host, and joining it
to the address is just that.
-/

namespace LightningDeposit.Url

/-- After two slashes there stands a host. -/
def namesHost (special : Bool) : List Char → Bool
  | c :: d :: _ => isSlash special c && isSlash special d
  | _ => false

/-- The segments that a path leads to: from the root if it begins with a slash, and else from where
the last segment stands. -/
def referredSegments (special : Bool) (segments : List String) : List Char → List String
  | [] => segments
  | c :: rest =>
    if isSlash special c then pathSegments special rest
    else
      walk segments.dropLast
        ((splitOn (isSlash special) (c :: rest)).map (escape needsPathEscape))

/-- The address on the same host that a text leads to. The query stays if there is no path and no
other query; an address whose path is a mere text takes nothing but a fragment. -/
def refer (base : Url) (s : List Char) : Except UrlError Url :=
  let special := isSpecial base.scheme
  let (front, fragment) := cutAt '#' s
  let (body, query) := cutAt '?' front
  match base.path with
  | .text _ =>
    if front = [] ∧ fragment.isSome then .ok { base with fragment := fragment.map fragmentText }
    else .error .noBasePath
  | .segments segments =>
    .ok { base with
      path := .segments (referredSegments special segments body)
      query := if body = [] ∧ query.isNone then base.query else query.map (queryText special)
      fragment := fragment.map fragmentText }

/-- The address that a reference leads to from an address that is not a local one. A scheme of its
own leads away, unless it is that of the base and no host follows; two slashes lead to another
host. -/
def resolve (base : Url) (reference : String) : Except UrlError Url :=
  let special := isSpecial base.scheme
  let s := clean reference
  match takeScheme? s with
  | some (scheme, rest) =>
    if special ∧ scheme = base.scheme ∧ namesHost special rest = false then refer base rest
    else parse reference
  | none =>
    match base.path with
    | .text _ => refer base s
    | .segments _ =>
      if namesHost special s then parse (base.scheme ++ ":" ++ String.ofList s) else refer base s

/-- The text begins with a slash that no other one follows. -/
def Rooted (reference : String) : Prop :=
  ∃ c rest, clean reference = '/' :: c :: rest ∧ isSlash true c = false

variable {reference : String}

/-- A beginning with one slash is not undone by what comes after it. -/
theorem Rooted.append {start : String} {c : Char} {rest : List Char}
    (hstart : start.toList = '/' :: c :: rest) (hc : isSlash true c = false)
    (houter : ∀ d ∈ start.toList, isOuter d = false) (tail : String) :
    Rooted (start ++ tail) := by
  have hne : start ≠ "" := by
    rintro rfl
    cases hstart
  refine ⟨c, rest ++ cleanEnd tail.toList, ?_, hc⟩
  rw [clean_append hne houter, hstart]
  rfl

theorem isSlash_false_of_true {c : Char} (h : isSlash true c = false) (special : Bool) :
    isSlash special c = false := by
  cases special with
  | true => exact h
  | false =>
    simp only [isSlash, Bool.true_and, Bool.or_eq_false_iff] at h
    simp only [isSlash, Bool.false_and, Bool.or_false, h.1]

/-- From a root, the body of a reference is what its path is made of. -/
theorem refer_of_slash (base : Url) {s : List Char} (h : clean reference = '/' :: s) :
    base.refer (clean reference) = base.join reference := by
  have hslash (special : Bool) : isSlash special '/' = true := rfl
  have hfront : (cutAt '#' (clean reference)).1 = '/' :: s.takeWhile (· != '#') := by
    rw [cutAt_fst, h, List.takeWhile_cons_of_pos (by decide)]
  have hbody : (cutAt '?' (cutAt '#' (clean reference)).1).1 =
      '/' :: (s.takeWhile (· != '#')).takeWhile (· != '?') := by
    rw [hfront, cutAt_fst, List.takeWhile_cons_of_pos (by decide)]
  simp only [refer, join, hbody]
  cases base.path with
  | text t => simp [hfront]
  | segments segments => simp [referredSegments, hslash]

/-- A rooted reference leads to where joining its text leads, whatever else it holds. -/
theorem resolve_of_rooted (base : Url) (h : Rooted reference) :
    base.resolve reference = base.join reference := by
  obtain ⟨c, rest, hclean, hc⟩ := h
  have hscheme : takeScheme? (clean reference) = none := by
    have halpha : ('/' : Char).isAlpha = false := by decide
    rw [hclean, takeScheme?, halpha]
    rfl
  have hhost : namesHost (isSpecial base.scheme) (clean reference) = false := by
    rw [hclean, namesHost, isSlash_false_of_true hc, Bool.and_false]
  rw [← refer_of_slash base hclean]
  simp only [resolve, hscheme, hhost]
  cases base.path <;> rfl

/-- Other references leave the host: with two slashes of either kind, or with a tab between them. -/
example :
    let base : Url := ⟨"http", "", "", some (.ipv4 2130706433), some 1, .segments [""], none, none⟩
    ∀ reference ∈ ["//10.0.0.1/v1", "\\\\10.0.0.1/v1", "/\t/10.0.0.1/v1", "http:/\\10.0.0.1/v1"],
      (base.resolve reference).map Url.text = .ok "http://10.0.0.1/v1" := by
  decide

end LightningDeposit.Url
