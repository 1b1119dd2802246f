import Mathlib.Data.List.DropRight
import OracleRs.Types.Integer

set_option relaxedAutoImplicit false
set_option autoImplicit false

/-!
# Connection strings

The connection strings of `config.rs`: what `from_str` makes of them, and the text that a configuration is
displayed as. The blanks around a string are stripped before the slashes in front of it, so that a blank
behind the slashes becomes part of the host; the displayed text begins with it, and it is lost when that text
is parsed. Every other accepted string is displayed as a text with the same host, port and service.

## Main definitions

* `OracleRs.Config.fromStr` — parsing.
* `OracleRs.Config.display` — the text of a configuration.
* `OracleRs.Config.Displayable` — what the parts of a parsed configuration have in common.

## Main results

* `OracleRs.Config.displayable_of_fromStr` — the parts of a parsed configuration.
* `OracleRs.Config.fromStr_display_iff` — when the displayed text is parsed to the same configuration.
-/

namespace OracleRs

open Decimal

/-! ## Configurations -/

/-- `DEFAULT_PORT`. -/
def defaultPort : UInt16 := 1521

/-- `ServiceMethod`. -/
inductive ServiceMethod where
  /-- connect using a service name -/
  | serviceName (name : String)
  /-- connect using a SID -/
  | sid (name : String)
deriving DecidableEq, Repr, Inhabited

/-- The part of `Config` that a connection string says, with the values of `Config::default`. -/
structure Config where
  /-- the host -/
  host : String := "localhost"
  /-- the port -/
  port : UInt16 := defaultPort
  /-- the service -/
  service : ServiceMethod := .serviceName "FREEPDB1"
deriving DecidableEq, Repr, Inhabited

/-- `Error::InvalidConnectionString`. -/
structure InvalidConnectionString where
  /-- what is wrong -/
  message : String
deriving DecidableEq, Repr, Inhabited

/-! ## Parsing -/

/-- `str::parse::<u16>`; a minus sign is no digit. -/
def parseU16 (s : String) : Option UInt16 :=
  if (asBytes s).head? = some 45 then none
  else (parseInt 0 (2 ^ 16 - 1) (asBytes s)).map fun n => UInt16.ofNat n.toNat

/-- What stands in front of the first occurrence of a character (`str::find`), and what stands behind it. -/
def cutAt (c : Char) (s : List Char) : Option (List Char × List Char) :=
  if c ∈ s then some (s.takeWhile (· ≠ c), (s.dropWhile (· ≠ c)).tail) else none

/-- The port in a connection string. -/
def parsePort (s : List Char) : Except InvalidConnectionString UInt16 :=
  match parseU16 (String.ofList s) with
  | some port => .ok port
  | none => .error ⟨"invalid port number"⟩

namespace Config

/-- The forms with a service name: `host/service_name` and `host:port/service_name`. -/
def withServiceName (hostPort serviceName : List Char) : Except InvalidConnectionString Config :=
  if serviceName = [] then .error ⟨"missing service name after /"⟩
  else
    match cutAt ':' hostPort with
    | some (host, port) => do
      let port ← parsePort port
      return ⟨String.ofList host, port, .serviceName (String.ofList serviceName)⟩
    | none => .ok ⟨String.ofList hostPort, defaultPort, .serviceName (String.ofList serviceName)⟩

/-- The forms without one: `host`, `host:port` and `host:port:sid`. -/
def withoutServiceName (s : List Char) : Except InvalidConnectionString Config :=
  match s.splitOn ':' with
  | [host] => .ok { host := String.ofList host }
  | [host, port] => do
    let port ← parsePort port
    return { host := String.ofList host, port := port }
  | [host, port, sid] => do
    let port ← parsePort port
    return ⟨String.ofList host, port, .sid (String.ofList sid)⟩
  | _ => .error ⟨"too many colons in connection string"⟩

/-- What is parsed of a connection string: the blanks around it are stripped, and then the slashes in front of
it. -/
def addressText (s : String) : List Char := (trim s).toList.dropWhile (· = '/')

/-- The EZConnect forms. -/
def ezConnect (s : List Char) : Except InvalidConnectionString Config :=
  match cutAt '/' s with
  | some (hostPort, serviceName) => withServiceName hostPort serviceName
  | none => withoutServiceName s

/-- `from_str`. -/
def fromStr (s : String) : Except InvalidConnectionString Config :=
  let s := addressText s
  if s = [] then .error ⟨"empty connection string"⟩
  else if s.head? = some '(' then
    .error ⟨"TNS descriptor format not yet supported, use EZConnect format"⟩
  else do
    let config ← ezConnect s
    if config.host = "" then throw ⟨"missing host"⟩
    return config

/-- `fmt::Display`. -/
def display (config : Config) : String :=
  match config.service with
  | .serviceName name => config.host ++ ":" ++ toString config.port ++ "/" ++ name
  | .sid name => config.host ++ ":" ++ toString config.port ++ ":" ++ name

end Config

/-! ## Parts of a text -/

section Parts

variable {c : Char} {s a b : List Char}

/-- A text is cut at the first occurrence. -/
lemma cutAt_append (ha : c ∉ a) : cutAt c (a ++ c :: b) = some (a, b) := by
  have hall : ∀ x ∈ a, decide (x ≠ c) = true := by
    intro x hx
    rw [decide_eq_true_eq]
    rintro rfl
    exact ha hx
  rw [cutAt, if_pos (by simp), List.takeWhile_append_of_pos hall, List.dropWhile_append_of_pos hall]
  simp

lemma cutAt_eq_none_iff : cutAt c s = none ↔ c ∉ s := by simp [cutAt]

/-- What a text is cut into. -/
lemma of_cutAt (h : cutAt c s = some (a, b)) : s = a ++ c :: b ∧ c ∉ a := by
  have hmem : c ∈ s := by
    by_contra hnot
    rw [cutAt_eq_none_iff.mpr hnot] at h
    cases h
  obtain ⟨a', b', rfl, ha'⟩ := List.eq_append_cons_of_mem hmem
  rw [cutAt_append ha'] at h
  cases h
  exact ⟨rfl, ha'⟩

/-- The first part of a text that is split, and the others. -/
lemma of_splitOn {parts : List (List Char)} (h : s.splitOn c = a :: parts) :
    c ∉ a ∧ (s = a ∧ parts = [] ∨ ∃ b, s = a ++ c :: b ∧ b.splitOn c = parts) := by
  by_cases hmem : c ∈ s
  · obtain ⟨a', b, rfl, ha'⟩ := List.eq_append_cons_of_mem hmem
    rw [List.splitOn_append_cons_self, List.splitOn_eq_singleton ha'] at h
    cases h
    exact ⟨ha', .inr ⟨b, rfl, rfl⟩⟩
  · rw [List.splitOn_eq_singleton hmem] at h
    cases h
    exact ⟨hmem, .inl ⟨rfl, rfl⟩⟩

lemma splitOn_append (ha : c ∉ a) : (a ++ c :: b).splitOn c = a :: b.splitOn c := by
  rw [List.splitOn_append_cons_self, List.splitOn_eq_singleton ha]
  rfl

end Parts

/-! ## Blanks around a text -/

/-- A text that is left does not end with white space. -/
lemma isWhitespace_getLast_trim {s : String} : ∀ c ∈ (trim s).toList.getLast?, isWhitespace c = false := by
  intro c hc
  rw [trim, String.toList_ofList, List.getLast?_reverse] at hc
  have hdrop := List.head?_dropWhile_not isWhitespace (s.toList.dropWhile isWhitespace).reverse
  rw [hc] at hdrop
  simpa using hdrop

/-! ## Numbers -/

/-- A port is parsed from its text. -/
lemma parsePort_toString (port : UInt16) : parsePort (toString port).toList = .ok port := by
  have hlt := port.toNat_lt
  obtain ⟨ds, -, hbytes, hds, hne, hval⟩ := exists_digits_toString port.toNat
  have hsign : (ds.map digitByte).head? ≠ some 45 := by
    intro hminus
    rw [List.head?_map, Option.map_eq_some_iff] at hminus
    obtain ⟨d, hd, hbyte⟩ := hminus
    exact digitByte_ne (hds d (List.mem_of_mem_head? hd)) (by decide) hbyte
  have hparse : parseU16 (toString port) = some port := by
    change asBytes (toString port) = _ at hbytes
    rw [parseU16, hbytes, if_neg hsign, parseInt_digits hds hne, hval, if_pos (by omega), Option.map_some,
      Int.toNat_natCast, UInt16.ofNat_toNat]
  rw [parsePort, String.ofList_toList, hparse]

/-- Only digits are in the text of a port. -/
lemma not_mem_toString_port {port : UInt16} {c : Char} (hc : c.toNat < 48 ∨ 57 < c.toNat) :
    c ∉ (toString port).toList := by
  obtain ⟨ds, htext, -, hds, -⟩ := exists_digits_toString port.toNat
  change (toString port).toList = _ at htext
  rw [htext, List.mem_map]
  rintro ⟨d, hd, rfl⟩
  have hlt := hds d hd
  rw [toNat_digitChar hlt] at hc
  omega

/-! ## Parsed configurations -/

/-- The text does not end with white space. -/
def EndsVisibly (s : List Char) : Prop := ∀ c ∈ s.getLast?, isWhitespace c = false

lemma EndsVisibly.of_suffix {s t : List Char} (h : EndsVisibly t) (hs : s <:+ t) : EndsVisibly s := by
  obtain ⟨a, rfl⟩ := hs
  intro c hc
  have hne : s ≠ [] := by
    rintro rfl
    cases hc
  refine h c ?_
  rwa [List.getLast?_append_of_ne_nil _ hne]

/-- What the services of parsed configurations have in common. -/
def ServiceMethod.Displayable : ServiceMethod → Prop
  | .serviceName name => name.toList ≠ [] ∧ EndsVisibly name.toList
  | .sid name => '/' ∉ name.toList ∧ ':' ∉ name.toList ∧ EndsVisibly name.toList

namespace Config

/-- What parsed configurations have in common. -/
structure Displayable (config : Config) : Prop where
  /-- there is a host -/
  host_ne : config.host.toList ≠ []
  /-- it has no slash -/
  slash : '/' ∉ config.host.toList
  /-- it has no colon -/
  colon : ':' ∉ config.host.toList
  /-- it is not the beginning of a descriptor -/
  paren : config.host.toList.head? ≠ some '('
  /-- the service -/
  service : config.service.Displayable

/-- What stands behind the port, with the separator. -/
def serviceText : ServiceMethod → List Char
  | .serviceName name => '/' :: name.toList
  | .sid name => ':' :: name.toList

lemma toList_display (config : Config) : config.display.toList =
    config.host.toList ++ ':' :: ((toString config.port).toList ++ serviceText config.service) := by
  obtain ⟨host, port, name | name⟩ := config <;> simp [display, serviceText]

/-- A displayed text does not end with white space. -/
lemma endsVisibly_serviceText {service : ServiceMethod} (h : service.Displayable) :
    EndsVisibly (serviceText service) := by
  cases service with
  | serviceName name =>
    intro c hc
    rw [serviceText, List.getLast?_cons_of_ne_nil h.1] at hc
    exact h.2 c hc
  | sid name =>
    intro c hc
    by_cases hnil : name.toList = []
    · rw [serviceText, hnil] at hc
      cases hc
      rfl
    · rw [serviceText, List.getLast?_cons_of_ne_nil hnil] at hc
      exact h.2.2 c hc

/-- A displayed text is parsed as it is, unless it begins with white space. -/
lemma addressText_display {config : Config} (h : config.Displayable)
    (hhead : ∀ c ∈ config.host.toList.head?, isWhitespace c = false) :
    addressText config.display = config.display.toList := by
  obtain ⟨c, cs, hhost⟩ := List.exists_cons_of_ne_nil h.host_ne
  have htrim : trim config.display = config.display := by
    refine trim_eq_self_of_ends ?_ ?_
    · rw [toList_display, List.head?_append_of_ne_nil _ h.host_ne]
      exact hhead
    · have hservice : serviceText config.service ≠ [] := by cases config.service <;> simp [serviceText]
      rw [toList_display, List.getLast?_append_of_ne_nil _ (by simp), List.getLast?_cons_of_ne_nil (by simp [hservice]),
        List.getLast?_append_of_ne_nil _ hservice]
      exact endsVisibly_serviceText h.service
  have hslash : c ≠ '/' := by
    rintro rfl
    exact h.slash (by simp [hhost])
  rw [addressText, htrim, toList_display, hhost, List.cons_append, List.dropWhile_cons_of_neg (by simpa using hslash)]

/-- A string is accepted if it has one of the forms, with a host. -/
lemma fromStr_eq_ok_iff {s : String} {config : Config} : fromStr s = .ok config ↔
    addressText s ≠ [] ∧ (addressText s).head? ≠ some '(' ∧ ezConnect (addressText s) = .ok config ∧
      config.host ≠ "" := by
  rw [fromStr]
  simp only
  split_ifs with hnil hparen
  · simp [hnil]
  · simp [hparen]
  · cases hform : ezConnect (addressText s) with
    | error e => exact iff_of_false (fun h => by cases h) fun h => by cases h.2.2.1
    | ok config' =>
      change (if config'.host = "" then Except.error _ else Except.ok config') = _ ↔ _
      split_ifs with hhost
      · refine iff_of_false (fun h => by cases h) fun h => h.2.2.2 ?_
        cases h.2.2.1
        exact hhost
      · constructor
        · rintro ⟨⟩
          exact ⟨hnil, hparen, rfl, hhost⟩
        · exact fun h => h.2.2.1

/-! ### The displayed text is parsed -/

/-- The form with a port and a service name. -/
lemma ezConnect_serviceName {host name : List Char} (port : UInt16) (hslash : '/' ∉ host) (hcolon : ':' ∉ host)
    (hname : name ≠ []) : ezConnect (host ++ ':' :: ((toString port).toList ++ '/' :: name)) =
      .ok ⟨String.ofList host, port, .serviceName (String.ofList name)⟩ := by
  have hslashes : '/' ∉ host ++ ':' :: (toString port).toList := by
    have hdigits : '/' ∉ (toString port).toList := not_mem_toString_port (by decide)
    simp [hslash, hdigits]
  have hcut : cutAt '/' (host ++ ':' :: ((toString port).toList ++ '/' :: name)) =
      some (host ++ ':' :: (toString port).toList, name) := by
    rw [← List.cons_append, ← List.append_assoc]
    exact cutAt_append hslashes
  simp only [ezConnect, hcut, withServiceName, if_neg hname, cutAt_append hcolon, parsePort_toString]
  rfl

/-- The form with a SID. -/
lemma ezConnect_sid {host sid : List Char} (port : UInt16) (hslash : '/' ∉ host) (hcolon : ':' ∉ host)
    (hslash' : '/' ∉ sid) (hcolon' : ':' ∉ sid) :
    ezConnect (host ++ ':' :: ((toString port).toList ++ ':' :: sid)) =
      .ok ⟨String.ofList host, port, .sid (String.ofList sid)⟩ := by
  have hcut : cutAt '/' (host ++ ':' :: ((toString port).toList ++ ':' :: sid)) = none := by
    have hdigits : '/' ∉ (toString port).toList := not_mem_toString_port (by decide)
    simp [cutAt_eq_none_iff, hslash, hslash', hdigits]
  have hsplit : (host ++ ':' :: ((toString port).toList ++ ':' :: sid)).splitOn ':' =
      [host, (toString port).toList, sid] := by
    rw [splitOn_append hcolon, splitOn_append (not_mem_toString_port (by decide)),
      List.splitOn_eq_singleton hcolon']
  simp only [ezConnect, hcut, withoutServiceName, hsplit, parsePort_toString]
  rfl

/-- A configuration is parsed from its displayed text, unless this begins with white space. -/
lemma fromStr_display {config : Config} (h : config.Displayable)
    (hhead : ∀ c ∈ config.host.toList.head?, isWhitespace c = false) : fromStr config.display = .ok config := by
  have htext := (addressText_display h hhead).trans (toList_display config)
  rw [fromStr_eq_ok_iff, htext, List.head?_append_of_ne_nil _ h.host_ne]
  refine ⟨by simp, h.paren, ?_, fun hempty => h.host_ne (by rw [hempty]; rfl)⟩
  obtain ⟨host, port, service⟩ := config
  cases service with
  | serviceName name =>
    have hform := ezConnect_serviceName port h.slash h.colon h.service.1
    rwa [String.ofList_toList, String.ofList_toList] at hform
  | sid name =>
    have hform := ezConnect_sid port h.slash h.colon h.service.1 h.service.2.1
    rwa [String.ofList_toList, String.ofList_toList] at hform

/-! ### What is parsed is displayable -/

/-- With a port that is parsed a form makes its configuration. -/
lemma of_parsePort_bind {port : List Char} {f : UInt16 → Config} {config : Config}
    (h : (do let port ← parsePort port; return f port) = Except.ok config) : ∃ p, config = f p := by
  cases hport : parsePort port with
  | error e =>
    rw [hport] at h
    cases h
  | ok p =>
    rw [hport] at h
    cases h
    exact ⟨p, rfl⟩

/-- What is parsed of the forms with a service name. -/
lemma of_withServiceName {hostPort name : List Char} {config : Config}
    (h : withServiceName hostPort name = .ok config) :
    name ≠ [] ∧ config.service = .serviceName (String.ofList name) ∧ ':' ∉ config.host.toList ∧
      config.host.toList <+: hostPort := by
  unfold withServiceName at h
  split_ifs at h with hname
  refine ⟨hname, ?_⟩
  split at h
  · next host port hcut =>
    obtain ⟨rfl, hcolon⟩ := of_cutAt hcut
    obtain ⟨p, rfl⟩ := of_parsePort_bind h
    rw [String.toList_ofList]
    exact ⟨rfl, hcolon, List.prefix_append host _⟩
  · next hcut =>
    cases h
    rw [String.toList_ofList]
    exact ⟨rfl, cutAt_eq_none_iff.mp hcut, List.prefix_rfl⟩

/-- What is parsed of the forms without one. -/
lemma of_withoutServiceName {s : List Char} {config : Config} (h : withoutServiceName s = .ok config) :
    (config.service = .serviceName "FREEPDB1" ∨
        ∃ sid, config.service = .sid (String.ofList sid) ∧ ':' ∉ sid ∧ sid <:+ s) ∧
      ':' ∉ config.host.toList ∧ config.host.toList <+: s := by
  unfold withoutServiceName at h
  split at h
  · next host hsplit =>
    cases h
    obtain ⟨hcolon, ⟨rfl, -⟩ | ⟨b, -, hb⟩⟩ := of_splitOn hsplit
    · rw [String.toList_ofList]
      exact ⟨.inl rfl, hcolon, List.prefix_rfl⟩
    · exact absurd hb (List.splitOn_ne_nil _ _)
  · next host port hsplit =>
    obtain ⟨p, rfl⟩ := of_parsePort_bind h
    obtain ⟨hcolon, ⟨-, hb⟩ | ⟨b, rfl, -⟩⟩ := of_splitOn hsplit
    · cases hb
    · rw [String.toList_ofList]
      exact ⟨.inl rfl, hcolon, List.prefix_append host _⟩
  · next host port sid hsplit =>
    obtain ⟨p, rfl⟩ := of_parsePort_bind h
    obtain ⟨hcolon, ⟨-, hb⟩ | ⟨b, rfl, hb⟩⟩ := of_splitOn hsplit
    · cases hb
    obtain ⟨-, ⟨-, hb'⟩ | ⟨b', rfl, hb'⟩⟩ := of_splitOn hb
    · cases hb'
    obtain ⟨hcolon', ⟨rfl, -⟩ | ⟨b'', -, hb''⟩⟩ := of_splitOn hb'
    · rw [String.toList_ofList]
      refine ⟨.inr ⟨b', rfl, hcolon', ?_⟩, hcolon, List.prefix_append host _⟩
      exact ⟨host ++ ':' :: port ++ [':'], by simp⟩
    · exact absurd hb'' (List.splitOn_ne_nil _ _)
  · cases h

/-- Blanks at the end are stripped. -/
lemma endsVisibly_addressText (s : String) : EndsVisibly (addressText s) :=
  EndsVisibly.of_suffix isWhitespace_getLast_trim (List.dropWhile_suffix _)

/-- What is parsed of the forms. -/
lemma of_ezConnect {s : List Char} {config : Config} (h : ezConnect s = .ok config) (hends : EndsVisibly s) :
    '/' ∉ config.host.toList ∧ ':' ∉ config.host.toList ∧ config.host.toList <+: s ∧
      config.service.Displayable := by
  unfold ezConnect at h
  split at h
  · next hostPort name hcut =>
    obtain ⟨rfl, hslash⟩ := of_cutAt hcut
    obtain ⟨hname, hservice, hcolon, hpre⟩ := of_withServiceName h
    have hsuffix : name <:+ hostPort ++ '/' :: name := ⟨hostPort ++ ['/'], by simp⟩
    refine ⟨fun hmem => hslash (hpre.subset hmem), hcolon, hpre.trans (List.prefix_append _ _), ?_⟩
    rw [hservice]
    show (String.ofList name).toList ≠ [] ∧ EndsVisibly (String.ofList name).toList
    rw [String.toList_ofList]
    exact ⟨hname, hends.of_suffix hsuffix⟩
  · next hcut =>
    have hslash := cutAt_eq_none_iff.mp hcut
    obtain ⟨hservice, hcolon, hpre⟩ := of_withoutServiceName h
    refine ⟨fun hmem => hslash (hpre.subset hmem), hcolon, hpre, ?_⟩
    obtain hservice | ⟨sid, hservice, hcolon', hsuffix⟩ := hservice
    · rw [hservice]
      exact ⟨by decide, fun c hc => by cases hc; rfl⟩
    · rw [hservice]
      show '/' ∉ (String.ofList sid).toList ∧ ':' ∉ (String.ofList sid).toList ∧
        EndsVisibly (String.ofList sid).toList
      rw [String.toList_ofList]
      exact ⟨fun hmem => hslash (hsuffix.subset hmem), hcolon', hends.of_suffix hsuffix⟩

/-- What a parsed configuration has, and how its host begins. -/
lemma displayable_of_fromStr {s : String} {config : Config} (h : fromStr s = .ok config) :
    config.Displayable ∧ config.host.toList.head? = (addressText s).head? := by
  obtain ⟨-, hparen, hform, hhost⟩ := fromStr_eq_ok_iff.mp h
  have hne : config.host.toList ≠ [] := fun hnil => hhost (String.toList_inj.mp hnil)
  obtain ⟨hslash, hcolon, ⟨rest, hrest⟩, hservice⟩ := of_ezConnect hform (endsVisibly_addressText s)
  have hhead : config.host.toList.head? = (addressText s).head? := by
    rw [← hrest, List.head?_append_of_ne_nil _ hne]
  have hparen' : config.host.toList.head? ≠ some '(' := hhead.trans_ne hparen
  exact ⟨⟨hne, hslash, hcolon, hparen', hservice⟩, hhead⟩

/-! ### The round trip -/

/-- White space stands right behind the slashes in front of the string. -/
def BlankBehindSlashes (s : String) : Prop := ∃ c ∈ (addressText s).head?, isWhitespace c = true

lemma any_isWhitespace_iff (s : String) :
    (addressText s).head?.any isWhitespace = true ↔ BlankBehindSlashes s := by
  rw [BlankBehindSlashes, Option.any_eq_true]
  rfl

instance (s : String) : Decidable (BlankBehindSlashes s) := decidable_of_iff _ (any_isWhitespace_iff s)

/-- A text is left that begins like the text behind its blanks. -/
lemma trim_prefix (s : String) : (trim s).toList <+: s.toList.dropWhile isWhitespace := by
  rw [trim, String.toList_ofList]
  exact List.rdropWhile_prefix isWhitespace _

/-- Behind the blanks of a displayed text stands neither a blank nor a slash. -/
lemma head_dropWhile_display {config : Config} (h : config.Displayable) :
    ∀ c ∈ (config.display.toList.dropWhile isWhitespace).head?, isWhitespace c = false ∧ c ≠ '/' := by
  intro c hc
  refine ⟨?_, ?_⟩
  · have hnot := List.head?_dropWhile_not isWhitespace config.display.toList
    rw [hc] at hnot
    simpa using hnot
  · rintro rfl
    rw [toList_display, List.dropWhile_append] at hc
    split_ifs at hc with hall
    · -- there are only blanks in the host
      rw [List.dropWhile_cons_of_neg (by decide)] at hc
      cases hc
    · have hne : config.host.toList.dropWhile isWhitespace ≠ [] := by simpa using hall
      rw [List.head?_append_of_ne_nil _ hne] at hc
      exact h.slash ((List.dropWhile_suffix _).subset (List.mem_of_mem_head? hc))

/-- The host that is parsed of a displayed text does not begin with white space. -/
lemma isWhitespace_head_of_fromStr_display {config config' : Config} (h : config.Displayable)
    (h' : fromStr config.display = .ok config') : ∀ c ∈ config'.host.toList.head?, isWhitespace c = false := by
  intro c hc
  rw [(displayable_of_fromStr h').2, addressText] at hc
  obtain ⟨rest, hrest⟩ := trim_prefix config.display
  have hbegin := head_dropWhile_display h
  rw [← hrest] at hbegin
  cases htrim : (trim config.display).toList with
  | nil =>
    rw [htrim] at hc
    cases hc
  | cons d ds =>
    rw [htrim] at hc hbegin
    obtain ⟨hblank, hslash⟩ := hbegin d rfl
    rw [List.dropWhile_cons_of_neg (by simpa using hslash)] at hc
    cases hc
    exact hblank

/-- A configuration that has been parsed is parsed from its displayed text if and only if no white space stands
right behind the slashes in front of the string. -/
theorem fromStr_display_iff {s : String} {config : Config} (h : fromStr s = .ok config) :
    fromStr config.display = .ok config ↔ ¬ BlankBehindSlashes s := by
  obtain ⟨hdisplayable, hhead⟩ := displayable_of_fromStr h
  have hblank : ¬ BlankBehindSlashes s ↔ ∀ c ∈ config.host.toList.head?, isWhitespace c = false := by
    rw [BlankBehindSlashes, hhead]
    simp
  rw [hblank]
  exact ⟨isWhitespace_head_of_fromStr_display hdisplayable, fromStr_display hdisplayable⟩

/-- A connection string with slashes in front is displayed and parsed. -/
theorem fromStr_display_myhost : fromStr (display ⟨"myhost", 1522, .serviceName "myservice"⟩) =
    .ok ⟨"myhost", 1522, .serviceName "myservice"⟩ :=
  (fromStr_display_iff (s := "//myhost:1522/myservice") (by decide +kernel)).mpr (by decide +kernel)

/-- A blank behind the slashes is part of the host, and lost in the displayed text. -/
theorem not_fromStr_display_blank :
    ¬ ∀ s config, fromStr s = .ok config → fromStr config.display = .ok config := by
  intro hall
  have hsome : fromStr "// myhost" = .ok ⟨" myhost", 1521, .serviceName "FREEPDB1"⟩ := by decide +kernel
  have hback : fromStr (display ⟨" myhost", 1521, .serviceName "FREEPDB1"⟩) =
      .ok ⟨"myhost", 1521, .serviceName "FREEPDB1"⟩ := by decide +kernel
  have heq := hall _ _ hsome
  rw [hback] at heq
  exact absurd heq (by decide)

end Config

end OracleRs
