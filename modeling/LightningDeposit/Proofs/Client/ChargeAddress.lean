import LightningDeposit.Backend
import LightningDeposit.Proofs.Client.Call
import LightningDeposit.Proofs.Url.Path
import LightningDeposit.Proofs.Url.Percent

/-!
The address at which a charge is asked for. The id is put into the path as it is, so it is asked for
as it was given only if it stands for itself there; the ids that do are told apart by their
addresses.
-/

namespace LightningDeposit

namespace Url

variable {s t : List Char} {c : Char}

/-- What of an id is still in the path: what comes before a query and a fragment. -/
def pathEnd (id : List Char) : List Char :=
  ((cleanEnd id).takeWhile (· != '#')).takeWhile (· != '?')

theorem cleanEnd_sublist (id : List Char) : (cleanEnd id).Sublist id :=
  List.filter_sublist.trans (List.rdropWhile_prefix isOuter id).sublist

theorem pathEnd_sublist (id : List Char) : (pathEnd id).Sublist id :=
  ((List.takeWhile_sublist _).trans (List.takeWhile_sublist _)).trans (cleanEnd_sublist id)

/-- The segments of a charge's path, once its dots have been followed. -/
def chargeSegments (special : Bool) (id : List Char) : List String :=
  walk ["v1", "charges"] ((splitOn (isSlash special) (pathEnd id)).map (escape needsPathEscape))

theorem pathSegments_charge (special : Bool) (s : List Char) :
    pathSegments special ("v1/charges/".toList ++ s) =
      walk ["v1", "charges"] ((splitOn (isSlash special) s).map (escape needsPathEscape)) := by
  have hfront (front : List Char) (h : ∀ c ∈ front, isSlash special c = false) (rest : List Char) :
      splitOn (isSlash special) (front ++ '/' :: rest) = front :: splitOn (isSlash special) rest :=
    splitOn_append h rfl rest
  have hsplit : splitOn (isSlash special) ("v1/charges/".toList ++ s) =
      "v1".toList :: "charges".toList :: splitOn (isSlash special) s := by
    have hv : ∀ c ∈ "v1".toList, isSlash special c = false := by simp [isSlash]
    have hcharges : ∀ c ∈ "charges".toList, isSlash special c = false := by simp [isSlash]
    exact (hfront _ hv _).trans (congrArg _ (hfront _ hcharges s))
  obtain ⟨part, parts, hparts⟩ := List.exists_cons_of_ne_nil (splitOn_ne_nil (isSlash special) s)
  rw [pathSegments, hsplit, hparts]
  rfl

theorem join_charge {base : Url} {root : List String} (hbase : base.path = .segments root)
    (id : String) :
    ∃ url, base.join ("/v1/charges/" ++ id) = .ok url ∧
      url.path = .segments (chargeSegments (isSpecial base.scheme) id.toList) ∧
      (url.query = none ↔ '?' ∉ (cleanEnd id.toList).takeWhile (· != '#')) := by
  have hclean : clean ("/v1/charges/" ++ id) = "/v1/charges/".toList ++ cleanEnd id.toList :=
    clean_append (by decide) (by simp [isOuter]) id
  have hkeep (c : Char) (hc : c ∉ "/v1/charges/".toList) (s : List Char) :
      ("/v1/charges/".toList ++ s).takeWhile (· != c) =
        "/v1/charges/".toList ++ s.takeWhile (· != c) := by
    rw [List.takeWhile_append_of_pos]
    intro d hd
    exact bne_iff_ne.mpr fun heq => hc (heq ▸ hd)
  refine ⟨_, by rw [join, hbase], ?_, ?_⟩
  · simp only [hclean, cutAt_fst, hkeep '#' (by decide), hkeep '?' (by decide)]
    exact congrArg UrlPath.segments (pathSegments_charge _ _)
  · simp only [hclean, cutAt_fst, hkeep '#' (by decide), Option.map_eq_none_iff,
      cutAt_snd_eq_none, List.mem_append, not_or]
    exact and_iff_right (by decide)

/-- A stage has lost nothing if in the end the whole is left. -/
theorem eq_self_of_sublist {whole part last : List Char} (hpart : part.Sublist whole)
    (hlast : last.Sublist part) (h : last = whole) : part = whole :=
  hpart.antisymm (h ▸ hlast)

theorem pathEnd_eq_self_iff {id : List Char} :
    pathEnd id = id ↔ (∀ c ∈ id, c ≠ '#' ∧ c ≠ '?' ∧ vanishes c = false) ∧
      ∀ c ∈ id.getLast?, isOuter c = false := by
  have htrimmed : (∀ c ∈ id.getLast?, isOuter c = false) ↔ id.rdropWhile isOuter = id := by
    rw [List.rdropWhile_eq_self_iff]
    constructor
    · intro h hne
      simp [h _ (List.getLast?_eq_getLast_of_ne_nil hne)]
    · intro h c hc
      obtain ⟨hne, rfl⟩ := List.mem_getLast?_eq_getLast hc
      simpa using h hne
  rw [htrimmed]
  constructor
  · intro h
    have hclean : cleanEnd id = id := eq_self_of_sublist (cleanEnd_sublist id)
      ((List.takeWhile_sublist _).trans (List.takeWhile_sublist _)) h
    have htrim : id.rdropWhile isOuter = id :=
      eq_self_of_sublist (List.rdropWhile_prefix isOuter id).sublist List.filter_sublist hclean
    have hvanish : ∀ c ∈ id, vanishes c = false := by
      rw [cleanEnd, htrim] at hclean
      exact withoutVanishing_eq_self.mp hclean
    rw [pathEnd, hclean] at h
    have hhash : id.takeWhile (· != '#') = id :=
      eq_self_of_sublist (List.takeWhile_sublist _) (List.takeWhile_sublist _) h
    rw [hhash] at h
    refine ⟨fun c hc => ⟨?_, ?_, hvanish c hc⟩, htrim⟩
    · exact bne_iff_ne.mp (List.takeWhile_eq_self_iff.mp hhash c hc)
    · exact bne_iff_ne.mp (List.takeWhile_eq_self_iff.mp h c hc)
  · rintro ⟨hchars, htrim⟩
    have hclean : cleanEnd id = id := by
      rw [cleanEnd, htrim]
      exact withoutVanishing_eq_self.mpr fun c hc => (hchars c hc).2.2
    have hhash : id.takeWhile (· != '#') = id :=
      List.takeWhile_eq_self_iff.mpr fun c hc => bne_iff_ne.mpr (hchars c hc).1
    rw [pathEnd, hclean, hhash]
    exact List.takeWhile_eq_self_iff.mpr fun c hc => bne_iff_ne.mpr (hchars c hc).2.1

/-- The dots in a path are read the same whether they are escaped or not. -/
theorem unescape_of_isSingleDot {segment : String} (h : isSingleDot segment = true) :
    unescape segment.toList = bytes ['.'] := by
  have hall : ∀ dot ∈ [".", "%2e", "%2E"], unescape dot.toList = bytes ['.'] := by decide
  exact hall segment (by simpa [isSingleDot] using h)

theorem unescape_of_isDoubleDot {segment : String} (h : isDoubleDot segment = true) :
    unescape segment.toList = bytes ['.', '.'] := by
  have hall : ∀ dots ∈ ["..", ".%2e", ".%2E", "%2e.", "%2E.", "%2e%2e", "%2e%2E", "%2E%2e",
      "%2E%2E"], unescape dots.toList = bytes ['.', '.'] := by decide
  exact hall segment (by simpa [isDoubleDot] using h)

end Url

/-- An id that stands for itself at the end of a path: nothing in it parts it, vanishes, is cut off,
leads elsewhere or stands for a byte. -/
structure Plain (id : String) : Prop where
  chars : ∀ c ∈ id.toList, c ∉ ['/', '\\', '?', '#', '\t', '\n', '\r']
  last : ∀ c ∈ id.toList.getLast?, 0x20 < c.toNat
  dots : id ≠ "." ∧ id ≠ ".."
  escapes : ¬Url.HasEscape id.toList

/-- The request asks for the charge with that id: it has no query, and one segment below the charges
that stands for the bytes of the id. -/
def Request.AsksFor (r : Request) (id : String) : Prop :=
  r.url.query = none ∧ ∃ segment,
    r.url.path = .segments ["v1", "charges", segment] ∧
      Url.unescape segment.toList = id.toUTF8.data.toList

namespace Plain

open Url

variable {id other segment : String}

theorem unescape_eq (h : Plain id) : unescape id.toList = bytes id.toList :=
  unescape_eq_bytes h.escapes

theorem pathEnd_eq (h : Plain id) : pathEnd id.toList = id.toList := by
  refine pathEnd_eq_self_iff.mpr ⟨fun c hc => ?_, fun c hc => ?_⟩
  · have hnot := h.chars c hc
    simp only [List.mem_cons, List.not_mem_nil, or_false, not_or] at hnot
    obtain ⟨-, -, hquery, hfragment, htab, hline, hreturn⟩ := hnot
    exact ⟨hfragment, hquery, by simp [vanishes, htab, hline, hreturn]⟩
  · exact decide_eq_false (Nat.not_le_of_gt (h.last c hc))

theorem isSlash_eq_false (h : Plain id) {c : Char} (hc : c ∈ id.toList) :
    isSlash true c = false := by
  have hnot := h.chars c hc
  simp only [List.mem_cons, List.not_mem_nil, or_false, not_or] at hnot
  simp [isSlash, hnot.1, hnot.2.1]

/-- The only segment below the charges is the id with what a path cannot hold escaped. -/
theorem chargeSegments_eq (h : Plain id) :
    chargeSegments true id.toList = ["v1", "charges", escape needsPathEscape id.toList] := by
  have hbytes : unescape (escape needsPathEscape id.toList).toList = bytes id.toList := by
    rw [unescape_escape, h.unescape_eq]
  have hdouble : isDoubleDot (escape needsPathEscape id.toList) = false := by
    rw [Bool.eq_false_iff]
    intro hdots
    rw [unescape_of_isDoubleDot hdots] at hbytes
    exact h.dots.2 (String.toList_injective (bytes_injective hbytes.symm))
  have hsingle : isSingleDot (escape needsPathEscape id.toList) = false := by
    rw [Bool.eq_false_iff]
    intro hdot
    rw [unescape_of_isSingleDot hdot] at hbytes
    exact h.dots.1 (String.toList_injective (bytes_injective hbytes.symm))
  rw [chargeSegments, h.pathEnd_eq, splitOn_of_none fun c hc => h.isSlash_eq_false hc]
  simp [walk, hdouble, hsingle]

/-- A text with the bytes of a longer one is all of it, and has no escapes. -/
theorem eq_of_unescape {last whole : List Char} (hlast : last.Sublist whole)
    (h : unescape last = bytes whole) : last = whole ∧ ¬HasEscape whole := by
  have hsub : (bytes last).Sublist (bytes whole) := hlast.flatMap _
  have hle := length_unescape_le last
  rw [h] at hle
  have heq : last = whole := bytes_injective (hsub.eq_of_length_le hle)
  refine ⟨heq, fun hescape => ?_⟩
  have hlt := length_unescape_lt hescape
  rw [← heq, h, heq] at hlt
  exact Nat.lt_irrefl _ hlt

theorem empty : Plain "" where
  chars := by simp
  last := by simp
  dots := by decide
  escapes := by
    intro h
    obtain ⟨before, after, heq, -⟩ := h
    simp at heq

/-- The last segment holds at most the end of the id, so an id that is found in it is there as a
whole. -/
theorem of_chargeSegments (hpath : chargeSegments true id.toList = ["v1", "charges", segment])
    (hbytes : unescape segment.toList = bytes id.toList) : Plain id := by
  obtain ⟨parts, last, hsplit, hsuffix, hslash, -⟩ :=
    splitOn_last (isSlash true) (pathEnd id.toList)
  have hwalk := hpath
  rw [chargeSegments, hsplit, List.map_append, List.map_singleton] at hwalk
  obtain ⟨segments, hlast | hlast⟩ := walk_last ["v1", "charges"]
    (parts.map (escape needsPathEscape)) (escape needsPathEscape last)
  · have hsegment : escape needsPathEscape last = segment := by
      rw [hlast] at hwalk
      simpa using congrArg List.getLast? hwalk
    rw [← hsegment, unescape_escape] at hbytes
    obtain ⟨hid, hescape⟩ :=
      eq_of_unescape (hsuffix.sublist.trans (pathEnd_sublist id.toList)) hbytes
    obtain ⟨hchars, hend⟩ := pathEnd_eq_self_iff.mp
      (eq_self_of_sublist (pathEnd_sublist id.toList) hsuffix.sublist hid)
    refine ⟨fun c hc => ?_, fun c hc => ?_, ⟨?_, ?_⟩, hescape⟩
    · obtain ⟨hfragment, hquery, hvanish⟩ := hchars c hc
      have hseparates := hslash c (hid ▸ hc)
      simp only [isSlash, vanishes, Bool.or_eq_false_iff, Bool.true_and, beq_eq_false_iff_ne]
        at hseparates hvanish
      simp [hfragment, hquery, hseparates, hvanish]
    · exact Nat.lt_of_not_le (of_decide_eq_false (hend c hc))
    · rintro rfl
      have hdot : chargeSegments true ".".toList = ["v1", "charges", ""] := by decide
      rw [hdot, ← hsegment, hid] at hpath
      exact absurd hpath (by decide)
    · rintro rfl
      have hdots : chargeSegments true "..".toList = ["v1", ""] := by decide
      rw [hdots] at hpath
      simp at hpath
  · have hsegment : segment = "" := by
      rw [hlast] at hwalk
      simpa using (congrArg List.getLast? hwalk).symm
    rw [hsegment] at hbytes
    have hid : id = "" := String.toList_injective (bytes_injective hbytes.symm)
    rw [hid]
    exact .empty

end Plain

/-- No request asks for two ids. -/
theorem Request.AsksFor.unique {r : Request} {id other : String} (h : r.AsksFor id)
    (h' : r.AsksFor other) : id = other := by
  obtain ⟨-, segment, hpath, hbytes⟩ := h
  obtain ⟨-, segment', hpath', hbytes'⟩ := h'
  have hsame : segment = segment' := by
    rw [hpath] at hpath'
    simpa using hpath'
  rw [hsame, hbytes', Url.data_toUTF8, Url.data_toUTF8] at hbytes
  exact String.toList_injective (Url.bytes_injective hbytes).symm

namespace Client

variable {c : Client} {x : Exchange}

/-- A charge is asked for with one request, which asks for the id if this is a plain one and for
something else if not. -/
theorem charge_asks (h : c.CanSend x) (id : String) :
    ∃ request, c.charge id x = (judge Charge.ofJson? x.turn.reply, x.after request) ∧
      request.method = "GET" ∧ (request.AsksFor id ↔ Plain id) := by
  obtain ⟨root, hroot⟩ := h.2.2.2
  have hspecial : Url.isSpecial c.baseUrl.scheme = true := by
    have hall : ∀ scheme ∈ requestSchemes, Url.isSpecial scheme = true := by decide
    exact hall _ h.2.2.1
  obtain ⟨url, hjoin, hpath, hquery⟩ := Url.join_charge hroot id
  rw [hspecial] at hpath
  refine ⟨_, call_of_join h hjoin "GET" none Charge.ofJson?, rfl, ?_⟩
  constructor
  · rintro ⟨-, segment, hsegment, hbytes⟩
    have hsegments : UrlPath.segments (Url.chargeSegments true id.toList) =
        .segments ["v1", "charges", segment] := hpath.symm.trans hsegment
    rw [Url.data_toUTF8] at hbytes
    exact .of_chargeSegments (UrlPath.segments.inj hsegments) hbytes
  · intro hplain
    refine ⟨hquery.mpr fun hmem => ?_, _, hpath.trans (congrArg _ hplain.chargeSegments_eq), ?_⟩
    · have hid : '?' ∈ id.toList :=
        ((List.takeWhile_sublist _).trans (Url.cleanEnd_sublist id.toList)).subset hmem
      exact hplain.chars '?' hid (by decide)
    · rw [Url.unescape_escape, hplain.unescape_eq, Url.data_toUTF8]

end Client

namespace Backend

theorem invoiceStatus_asks {b : Backend} {s : Surroundings} (h : b.client.CanSend s.exchange)
    (id : String) :
    ∃ request, (b.invoiceStatus id s).2.exchange.sent = s.exchange.sent ++ [request] ∧
      request.method = "GET" ∧ (request.AsksFor id ↔ Plain id) := by
  obtain ⟨request, hcall, hmethod, hasks⟩ := Client.charge_asks h id
  refine ⟨request, ?_, hmethod, hasks⟩
  simp only [invoiceStatus, hcall]
  rfl

/-- A status check that cannot send makes no request. Every other one makes one, and that asks for
the charge that the check was given exactly if its id is plain. So the checks of two plain ids make
different requests. -/
theorem invoiceStatus_asks_iff (b : Backend) (id : String) (s : Surroundings) :
    (¬b.client.CanSend s.exchange →
      (b.invoiceStatus id s).2.exchange.sent = s.exchange.sent) ∧
    (b.client.CanSend s.exchange →
      (∃ request, (b.invoiceStatus id s).2.exchange.sent = s.exchange.sent ++ [request] ∧
        request.method = "GET" ∧ (request.AsksFor id ↔ Plain id)) ∧
      ∀ other, Plain id → Plain other →
        (b.invoiceStatus other s).2.exchange.sent = (b.invoiceStatus id s).2.exchange.sent →
        other = id) := by
  constructor
  · intro hsend
    obtain ⟨cause, hcall⟩ :=
      Client.call_of_not_canSend hsend "GET" ("/v1/charges/" ++ id) none Charge.ofJson?
    simp only [invoiceStatus, Client.charge, hcall]
  · intro hsend
    refine ⟨invoiceStatus_asks hsend id, fun other hid hother hsame => ?_⟩
    obtain ⟨request, hsent, -, hasks⟩ := invoiceStatus_asks hsend id
    obtain ⟨request', hsent', -, hasks'⟩ := invoiceStatus_asks hsend other
    have hrequest : request' = request := by
      rw [hsent, hsent'] at hsame
      simpa using hsame
    subst hrequest
    exact (hasks'.mpr hother).unique (hasks.mpr hid)

/-- The provider may call a charge by a name that leads to the wallet, and two names may lead to one
charge. -/
theorem invoiceStatus_asks_for_wallet :
    let client : Client := ⟨"key", ⟨"http", "", "", some (.ipv4 2130706433), some 1, .segments [""],
      none, none⟩⟩
    let b : Backend := ⟨client, .sat, none, none, 900, "deposit"⟩
    let charge := "\x7b\"data\":\x7b\"id\":\"../wallet\",\"invoice\":[\"lnbc1\"]\x7d\x7d".toUTF8
    let s : Surroundings := ⟨⟨0, true, [⟨.response 200 charge, none⟩], []⟩, none⟩
    let sent (id : String) := (b.invoiceStatus id s).2.exchange.sent
    (b.createInvoice (.sat 1) none s).1 = .created "../wallet" "lnbc1" ∧
      sent "../wallet" = [client.request "GET" ["v1", "wallet"] none] ∧
      ¬(client.request "GET" ["v1", "wallet"] none).AsksFor "../wallet" ∧
      sent "open/../paid" = sent "paid" := by
  intro client b charge s sent
  refine ⟨by decide, by decide, ?_, by decide⟩
  rintro ⟨-, segment, hpath, -⟩
  simp [Client.request, Client.below] at hpath

end Backend

end LightningDeposit
