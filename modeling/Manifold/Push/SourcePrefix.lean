import Mathlib.Data.List.Basic

/-! The source a request is rate limited under, read from the peer and the forwarding headers. -/

namespace Manifold.Push

abbrev Text := List Char

inductive IpAddr where
  | v4 (addr : BitVec 32)
  | v6 (addr : BitVec 128)
deriving DecidableEq

/-- How the standard library writes addresses and reads them back. -/
structure IpText where
  parse : Text → Option IpAddr
  print : IpAddr → Text
  parse_print : ∀ ip, parse (print ip) = some ip
  plain : ∀ ip, ∀ c ∈ print ip, 32 < c.toNat ∧ c.toNat < 127 ∧ c ≠ ',' ∧ c ≠ '"'

inductive IpCidr where
  | v4 (network : BitVec 32) (length : Nat)
  | v6 (network : BitVec 128) (length : Nat)

/-- `v4_mask` and `v6_mask`. -/
def mask (width length : Nat) : BitVec width :=
  if length = 0 then 0 else BitVec.allOnes width <<< (width - length)

def IpCidr.contains : IpCidr → IpAddr → Bool
  | .v4 network length, .v4 addr => addr &&& mask 32 length == network
  | .v6 network length, .v6 addr => addr &&& mask 128 length == network
  | _, _ => false

abbrev TrustedProxyCidrs := List IpCidr

def TrustedProxyCidrs.isTrusted (proxies : TrustedProxyCidrs) (ip : IpAddr) : Bool := proxies.any (·.contains ip)

/-- The lines of each header; `get` reads the first. -/
structure HeaderMap where
  forwarded : List Text
  xForwardedFor : List Text
deriving DecidableEq

/-- `HeaderValue::to_str`: visible ASCII only. -/
def toStr (value : Text) : Option Text :=
  if value.all (fun c => c == '\t' || 32 ≤ c.toNat && c.toNat < 127) then some value else none

def trimMatches (p : Char → Bool) (s : Text) : Text := ((s.dropWhile p).reverse.dropWhile p).reverse

def trim (s : Text) : Text := trimMatches Char.isWhitespace s

section

variable (t : IpText)

def parseForwardedIp (value : Text) : Option IpAddr :=
  let value := trim (trimMatches (· == '"') value)
  match t.parse value, value with
  | some ip, _ => some ip
  | none, '[' :: rest => t.parse (rest.takeWhile (· ≠ ']'))
  | none, _ => t.parse (value.takeWhile (· ≠ ':'))

def forwardedParam (param : Text) : Option IpAddr :=
  let param := trim param
  match param.dropWhile (· ≠ '=') with
  | [] => none
  | _ :: value =>
    if (trim (param.takeWhile (· ≠ '='))).map Char.toLower = ['f', 'o', 'r'] then parseForwardedIp t (trim value)
    else none

def forwardedIps (headers : HeaderMap) : List IpAddr :=
  match headers.forwarded.head?.bind toStr with
  | none => []
  | some value => (value.splitOn ',').flatMap fun item => (item.splitOn ';').filterMap (forwardedParam t)

def lineIps (value : Text) : List IpAddr := (value.splitOn ',').filterMap fun ip => parseForwardedIp t (trim ip)

def xForwardedForIps (headers : HeaderMap) : List IpAddr :=
  match headers.xForwardedFor.head?.bind toStr with
  | none => []
  | some value => lineIps t value

def selectClientFromForwardedChain (chain : List IpAddr) (proxies : TrustedProxyCidrs) : Option IpAddr :=
  (chain.reverse.find? (fun ip => !proxies.isTrusted ip)).or chain.head?

def forwardedFor (headers : HeaderMap) (proxies : TrustedProxyCidrs) : Option IpAddr :=
  let chain := forwardedIps t headers
  selectClientFromForwardedChain (if chain.isEmpty then xForwardedForIps t headers else chain) proxies

def normalizeSourcePrefix : IpAddr → Text
  | .v4 addr => t.print (.v4 addr)
  | .v6 addr => t.print (.v6 (addr >>> 64 <<< 64)) ++ ['/', '6', '4']

def effectiveSourcePrefix (directPeer : Option IpAddr) (headers : HeaderMap) (trustedProxies : Option TrustedProxyCidrs) :
    Text :=
  match directPeer, trustedProxies with
  | none, _ => normalizeSourcePrefix t (.v4 0x7f000001)
  | some ip, none => normalizeSourcePrefix t ip
  | some ip, some proxies =>
    normalizeSourcePrefix t (if proxies.isTrusted ip then (forwardedFor t headers proxies).getD ip else ip)

structure Proxy where
  addr : IpAddr
  /-- It writes one line of those it got, and does not add a line of its own. -/
  joins : Bool

def joinLines : List Text → Text
  | [] => []
  | [value] => value
  | value :: next :: rest => value ++ ',' :: ' ' :: joinLines (next :: rest)

/-- A proxy appends the peer it got the request from and leaves the other header. -/
def addPeer (peer : IpAddr) (joins : Bool) (headers : HeaderMap) : HeaderMap :=
  let lines := headers.xForwardedFor ++ [t.print peer]
  { headers with xForwardedFor := if joins then [joinLines lines] else lines }

/-- The peer and the headers the gateway sees after a chain of proxies. -/
def throughProxies : IpAddr → List Proxy → HeaderMap → IpAddr × HeaderMap
  | peer, [], headers => (peer, headers)
  | peer, proxy :: rest, headers => throughProxies proxy.addr rest (addPeer t peer proxy.joins headers)

/-- The key of a request that a client sent through proxies. -/
def proxiedSource (proxies : TrustedProxyCidrs) (client : IpAddr) (chain : List Proxy) (headers : HeaderMap) : Text :=
  let seen := throughProxies t client chain headers
  effectiveSourcePrefix t (some seen.1) seen.2 (some proxies)

/-- What the client's own headers name, where the addresses that the proxies append are not read: text that cannot
be read names nobody once it is joined. -/
def namedByClient (proxies : TrustedProxyCidrs) (chain : List Proxy) (headers : HeaderMap) : Option IpAddr :=
  if forwardedIps t headers = [] ∧ chain.any (·.joins) then none else forwardedFor t headers proxies

/-- The client names no address in `Forwarded`, and sends no `X-Forwarded-For` or lines that can be read as text and
that a proxy joins with what it appends. -/
def HeaderMap.Plain (chain : List Proxy) (headers : HeaderMap) : Prop :=
  forwardedIps t headers = [] ∧
    (headers.xForwardedFor = [] ∨ chain.any (·.joins) ∧ ∀ v ∈ headers.xForwardedFor, toStr v = some v)

end

variable {t : IpText}

theorem trimMatches_eq {p s} (h : ∀ c ∈ s, p c = false) : trimMatches p s = s := by
  have hdrop : ∀ s : Text, (∀ c ∈ s, p c = false) → s.dropWhile p = s
    | [], _ => rfl
    | c :: _, h => List.dropWhile_cons_of_neg (by simp [h c List.mem_cons_self])
  rw [trimMatches, hdrop s h, hdrop s.reverse fun c hc => h c (List.mem_reverse.1 hc), List.reverse_reverse]

theorem isWhitespace_eq_false {c : Char} (h : 32 < c.toNat) : c.isWhitespace = false := by
  simp only [Char.isWhitespace, Bool.or_eq_false_iff, decide_eq_false_iff_not]
  refine ⟨⟨⟨?_, ?_⟩, ?_⟩, ?_⟩ <;> (rintro rfl; revert h; decide)

theorem parseForwardedIp_print (ip : IpAddr) : parseForwardedIp t (t.print ip) = some ip := by
  have hquote : trimMatches (· == '"') (t.print ip) = t.print ip :=
    trimMatches_eq fun c hc => by simpa using (t.plain ip c hc).2.2.2
  have htrim : trim (t.print ip) = t.print ip := trimMatches_eq fun c hc => isWhitespace_eq_false (t.plain ip c hc).1
  rw [parseForwardedIp, hquote, htrim, t.parse_print]

theorem toStr_append {v w} : toStr (v ++ w) = some (v ++ w) ↔ toStr v = some v ∧ toStr w = some w := by
  simp only [toStr, List.all_append]
  grind

theorem toStr_print (ip : IpAddr) : toStr (t.print ip) = some (t.print ip) := by
  have hplain := t.plain ip
  simp only [toStr, ite_eq_left_iff, List.all_eq_true]
  grind

/-! ## Joined lines -/

theorem lineIps_append (v w : Text) : lineIps t (v ++ ',' :: ' ' :: w) = lineIps t v ++ lineIps t w := by
  have hspace : lineIps t (' ' :: w) = lineIps t w := by
    obtain ⟨item, items, hw⟩ := List.exists_cons_of_ne_nil (List.splitOnP_ne_nil (· == ',') w)
    have hsplit : (' ' :: w).splitOn ',' = (' ' :: item) :: items := by
      simp [List.splitOn, List.splitOnP_cons_eq_if_modifyHead, hw]
    have htrim : trim (' ' :: item) = trim item := rfl
    rw [lineIps, lineIps, hsplit, List.splitOn, hw, List.filterMap_cons, List.filterMap_cons, htrim]
  have hsplit : (v ++ ',' :: ' ' :: w).splitOn ',' = v.splitOn ',' ++ (' ' :: w).splitOn ',' :=
    List.splitOnP_append_cons v _ rfl
  rw [lineIps, hsplit, List.filterMap_append]
  exact congrArg _ hspace

theorem lineIps_joinLines {lines : List Text} (h : lines ≠ []) :
    lineIps t (joinLines lines) = lines.flatMap (lineIps t) := by
  induction lines with
  | nil => exact absurd rfl h
  | cons v rest ih =>
    cases rest with
    | nil => simp [joinLines]
    | cons w rest => rw [joinLines, lineIps_append, ih (List.cons_ne_nil w rest), List.flatMap_cons (x := v)]

theorem lineIps_print (ip : IpAddr) : lineIps t (t.print ip) = [ip] := by
  have htrim : trim (t.print ip) = t.print ip := trimMatches_eq fun c hc => isWhitespace_eq_false (t.plain ip c hc).1
  have hsplit : (t.print ip).splitOn ',' = [t.print ip] :=
    List.splitOnP_eq_singleton fun c hc => by simpa using (t.plain ip c hc).2.2.1
  simp [lineIps, hsplit, htrim, parseForwardedIp_print]

theorem toStr_joinLines {lines : List Text} :
    toStr (joinLines lines) = some (joinLines lines) ↔ ∀ v ∈ lines, toStr v = some v := by
  induction lines with
  | nil => simp [joinLines, toStr]
  | cons v rest ih =>
    cases rest with
    | nil => simp [joinLines]
    | cons w rest =>
      rw [joinLines, toStr_append, List.forall_mem_cons, ← ih]
      exact and_congr_right fun _ => toStr_append (v := [',', ' ']).trans (and_iff_right rfl)

/-! ## Behind proxies -/

theorem throughProxies_forwarded (peer : IpAddr) (chain : List Proxy) (headers : HeaderMap) :
    (throughProxies t peer chain headers).2.forwarded = headers.forwarded := by
  induction chain generalizing peer headers with
  | nil => rfl
  | cons proxy rest ih => exact ih proxy.addr (addPeer t peer proxy.joins headers)

theorem throughProxies_last {peer : IpAddr} {chain : List Proxy} (hne : chain ≠ []) (headers : HeaderMap) :
    (throughProxies t peer chain headers).1 = (chain.getLast hne).addr := by
  induction chain generalizing peer headers with
  | nil => exact absurd rfl hne
  | cons proxy rest ih =>
    cases rest with
    | nil => rfl
    | cons next rest => exact ih (List.cons_ne_nil next rest) (addPeer t peer proxy.joins headers)

/-- The last address of the lines that is no proxy's is the client's, and the first line shows it or a proxy is still
to join the lines. -/
structure Traced (t : IpText) (proxies : TrustedProxyCidrs) (client peer : IpAddr) (chain : List Proxy)
    (lines : List Text) : Prop where
  readable : ∀ v ∈ lines, toStr v = some v
  last : (lines.flatMap (lineIps t) ++ [peer]).reverse.find? (fun ip => !proxies.isTrusted ip) = some client
  shown : (∃ v rest, lines = v :: rest ∧ (lineIps t v).reverse.find? (fun ip => !proxies.isTrusted ip) = some client) ∨
    chain.any (·.joins) ∨ lines = [] ∧ chain ≠ []

theorem Traced.finds {proxies client peer chain headers} (hchain : ∀ p ∈ chain, proxies.isTrusted p.addr = true)
    (h : Traced t proxies client peer chain headers.xForwardedFor) :
    (xForwardedForIps t (throughProxies t peer chain headers).2).reverse.find? (fun ip => !proxies.isTrusted ip) =
      some client := by
  induction chain generalizing peer headers with
  | nil =>
    obtain ⟨v, rest, hlines, hfind⟩ := h.shown.resolve_right (by simp)
    have hread := h.readable v (by simp [hlines])
    simpa [throughProxies, xForwardedForIps, hlines, hread] using hfind
  | cons proxy rest ih =>
    have htrusted := hchain proxy List.mem_cons_self
    have hreadable : ∀ v ∈ headers.xForwardedFor ++ [t.print peer], toStr v = some v := fun v hv => by
      rcases List.mem_append.mp hv with hv | hv
      · exact h.readable v hv
      · rw [List.mem_singleton.mp hv, toStr_print]
    rw [throughProxies]
    refine ih (fun p hp => hchain p (List.mem_cons_of_mem _ hp)) ?_
    cases hj : proxy.joins with
    | true =>
      have hips : lineIps t (joinLines (headers.xForwardedFor ++ [t.print peer])) =
          headers.xForwardedFor.flatMap (lineIps t) ++ [peer] := by
        rw [lineIps_joinLines (by simp), List.flatMap_append, List.flatMap_singleton, lineIps_print]
      refine ⟨?_, ?_, .inl ⟨_, [], rfl, by rw [hips]; exact h.last⟩⟩
      · simpa [addPeer] using toStr_joinLines.mpr hreadable
      · simpa [addPeer, hips, htrusted] using h.last
    | false =>
      refine ⟨hreadable, by simpa [addPeer, lineIps_print, htrusted] using h.last, ?_⟩
      rcases h.shown with ⟨v, rest', hlines, hfind⟩ | hjoins | ⟨hnil, -⟩
      · exact .inl ⟨v, rest' ++ [t.print peer], by simp [addPeer, hlines], hfind⟩
      · exact .inr (.inl (by simpa [hj] using hjoins))
      · have hlast := h.last
        rw [hnil] at hlast
        exact .inl ⟨t.print peer, [], by simp [addPeer, hnil], by simpa [lineIps_print] using hlast⟩

/-- Lines that no proxy joins are hidden by the first of them. -/
theorem throughProxies_head {peer chain headers} (hjoins : chain.any (·.joins) = false)
    (hne : headers.xForwardedFor ≠ []) :
    (throughProxies t peer chain headers).2.xForwardedFor.head? = headers.xForwardedFor.head? := by
  induction chain generalizing peer headers with
  | nil => rfl
  | cons proxy rest ih =>
    obtain ⟨hj, hrest⟩ : proxy.joins = false ∧ rest.any (·.joins) = false := Bool.or_eq_false_iff.mp hjoins
    rw [throughProxies, hj, ih hrest (by simp [addPeer])]
    simp [addPeer, List.head?_append_of_ne_nil _ hne]

/-- Text that cannot be read spoils the line it is joined into. -/
theorem throughProxies_unreadable {peer chain headers}
    (h : (∃ v ∈ headers.xForwardedFor, toStr v ≠ some v) ∧ chain.any (·.joins) ∨
      ∃ v rest, headers.xForwardedFor = v :: rest ∧ toStr v ≠ some v) :
    ∃ v rest, (throughProxies t peer chain headers).2.xForwardedFor = v :: rest ∧ toStr v ≠ some v := by
  induction chain generalizing peer headers with
  | nil => exact h.resolve_left (by simp)
  | cons proxy rest ih =>
    rw [throughProxies]
    refine ih ?_
    have hbad : ∃ v ∈ headers.xForwardedFor ++ [t.print peer], toStr v ≠ some v := by
      rcases h with ⟨⟨v, hv, hbad⟩, -⟩ | ⟨v, rest', hlines, hbad⟩
      · exact ⟨v, List.mem_append_left _ hv, hbad⟩
      · exact ⟨v, by simp [hlines], hbad⟩
    cases hj : proxy.joins with
    | true =>
      refine .inr ⟨_, [], rfl, fun hread => ?_⟩
      obtain ⟨v, hv, hbad⟩ := hbad
      exact hbad (toStr_joinLines.mp hread v hv)
    | false =>
      rcases h with ⟨-, hjoins⟩ | ⟨v, rest', hlines, hv⟩
      · exact .inl ⟨hbad, by simpa [hj] using hjoins⟩
      · exact .inr ⟨v, rest' ++ [t.print peer], by simp [addPeer, hlines], hv⟩

theorem forwardedIps_throughProxies (peer : IpAddr) (chain : List Proxy) (headers : HeaderMap) :
    forwardedIps t (throughProxies t peer chain headers).2 = forwardedIps t headers := by
  rw [forwardedIps, throughProxies_forwarded, forwardedIps]

/-- Where the client's headers are not plain, it is they that choose. -/
theorem forwardedFor_named {proxies client chain headers} (h : ¬ headers.Plain t chain) :
    forwardedFor t (throughProxies t client chain headers).2 proxies = namedByClient t proxies chain headers := by
  by_cases hf : forwardedIps t headers = []
  case neg => simp [namedByClient, forwardedFor, forwardedIps_throughProxies, hf]
  obtain ⟨hne, hlines⟩ := not_or.mp (not_and.mp h hf)
  cases hj : chain.any (·.joins) with
  | false =>
    simp [namedByClient, forwardedFor, forwardedIps_throughProxies, hf, hj, xForwardedForIps, throughProxies_head hj hne]
  | true =>
    obtain ⟨v, rest, hseen, hbad⟩ := @throughProxies_unreadable t client _ _ (.inl ⟨by simpa [hj] using hlines, hj⟩)
    have hnone : toStr v = none := by
      unfold toStr at hbad ⊢
      exact if_neg fun hv => hbad (if_pos hv)
    simp [namedByClient, forwardedFor, forwardedIps_throughProxies, hf, hj, xForwardedForIps, hseen, hnone,
      selectClientFromForwardedChain]

/-- Behind trusted proxies a client is limited under its own address exactly when its headers are plain, or when what
they name, or else the last proxy, has the client's own prefix. One that reaches the gateway itself always is. -/
theorem source_is_client (t : IpText) (proxies : TrustedProxyCidrs) (client : IpAddr)
    (hclient : proxies.isTrusted client = false) :
    (∀ chain headers, ∀ hne : chain ≠ [], (∀ p ∈ chain, proxies.isTrusted p.addr = true) →
      (proxiedSource t proxies client chain headers = normalizeSourcePrefix t client ↔
        headers.Plain t chain ∨ normalizeSourcePrefix t
          ((namedByClient t proxies chain headers).getD (chain.getLast hne).addr) = normalizeSourcePrefix t client)) ∧
    ∀ headers, effectiveSourcePrefix t (some client) headers (some proxies) = normalizeSourcePrefix t client ∧
      effectiveSourcePrefix t (some client) headers none = normalizeSourcePrefix t client := by
  refine ⟨fun chain headers hne hchain => ?_, fun headers => ⟨by simp [effectiveSourcePrefix, hclient], rfl⟩⟩
  have hlast := hchain _ (List.getLast_mem hne)
  have hkey : proxiedSource t proxies client chain headers = normalizeSourcePrefix t
      ((forwardedFor t (throughProxies t client chain headers).2 proxies).getD (chain.getLast hne).addr) := by
    simp only [proxiedSource, effectiveSourcePrefix, throughProxies_last hne, hlast, if_true]
  rw [hkey]
  by_cases hplain : headers.Plain t chain
  · refine iff_of_true ?_ (.inl hplain)
    obtain ⟨hf, hlines⟩ := hplain
    have htraced : Traced t proxies client client chain headers.xForwardedFor := by
      refine ⟨fun v hv => ?_, by simp [hclient], .inr ?_⟩
      · rcases hlines with hnil | ⟨-, hread⟩
        · simp [hnil] at hv
        · exact hread v hv
      · exact hlines.symm.imp And.left fun hnil => ⟨hnil, hne⟩
    simp [forwardedFor, forwardedIps_throughProxies, hf, selectClientFromForwardedChain, htraced.finds hchain]
  · rw [forwardedFor_named hplain, or_iff_right hplain]

/-- Addresses written in unary. -/
def unaryText : IpText where
  parse
    | '4' :: s => some (.v4 (BitVec.ofNat 32 s.length))
    | _ :: s => some (.v6 (BitVec.ofNat 128 s.length))
    | [] => none
  print
    | .v4 addr => '4' :: List.replicate addr.toNat '1'
    | .v6 addr => '6' :: List.replicate addr.toNat '1'
  parse_print ip := by cases ip <;> simp
  plain ip c hc := by
    have h : c = '4' ∨ c = '6' ∨ c = '1' := by cases ip <;> grind
    rcases h with rfl | rfl | rfl <;> decide

def oneProxy : TrustedProxyCidrs := [.v4 3 32]

/-- Two lines that are sent ahead are joined by the second proxy. -/
theorem source_is_client_behind_proxies :
    proxiedSource unaryText oneProxy (.v4 2) [⟨.v4 3, false⟩, ⟨.v4 3, true⟩] ⟨[], ["41".toList, "4".toList]⟩ =
      "411".toList :=
  ((source_is_client unaryText oneProxy (.v4 2) (by decide)).1 _ _ (by simp) (by decide)).2
    (.inl ⟨rfl, .inr ⟨rfl, by decide⟩⟩)

/-- The proxy leaves a `Forwarded` header as it is, and the gateway reads it first; a line of its own is not read. -/
theorem forwarded_chooses_source :
    oneProxy.isTrusted (.v4 2) = false ∧ oneProxy.isTrusted (.v4 3) = true ∧
    throughProxies unaryText (.v4 2) [⟨.v4 3, true⟩] ⟨["for=41".toList], []⟩ =
      (.v4 3, ⟨["for=41".toList], ["411".toList]⟩) ∧
    proxiedSource unaryText oneProxy (.v4 2) [⟨.v4 3, true⟩] ⟨["for=41".toList], []⟩ =
      normalizeSourcePrefix unaryText (.v4 1) ∧
    proxiedSource unaryText oneProxy (.v4 2) [⟨.v4 3, false⟩] ⟨[], ["41".toList]⟩ =
      normalizeSourcePrefix unaryText (.v4 1) ∧
    normalizeSourcePrefix unaryText (.v4 1) ≠ normalizeSourcePrefix unaryText (.v4 2) := by
  decide +kernel

end Manifold.Push
