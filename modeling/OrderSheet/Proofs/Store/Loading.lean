import Mathlib
import OrderSheet.Proofs.Store.Freshness
import OrderSheet.Proofs.Template.Halting

/-!
# What the content of a file is loaded as

A file that can be read holds a template, or the load fails. However documents are read, two things
make it fail otherwise than by a fault of the configuration: a failure of the reading that is not
expected, and keywords that cannot be gone through.
-/

namespace OrderSheet.Store

open Data (lookup?)

variable {read : Reader} {id : String} {content : List UInt8} {d v : Data}
  {es : List (Data × Data)} {t : Template} {s : Store} {answer : Except Failure Template}
  {f : Failure} {u : Unread}

def entriesOf? (d : Data) : Option (List (Data × Data)) :=
  match if d.isEmptyValue then .map [] else d with
  | .map es => some es
  | _ => none

def fillId (id : String) (es : List (Data × Data)) : List (Data × Data) :=
  if (lookup? es "id").isSome then es else es ++ [(.text "id", .text id)]

inductive Parses (read : Reader) (id : String) (content : List UInt8) :
    Except Failure Template → Prop where
  | unread {u : Unread} (hread : read content = .error u) :
    Parses read id content (.error (u.failure id))
  | notMapping {d : Data} (hread : read content = .ok d) (hd : entriesOf? d = none) :
    Parses read id content (.error (.store (.unexpected id
      (Complaint.inQuotes d.typeName ++ " object has no attribute 'setdefault'"))))
  | invalid {d : Data} {es : List (Data × Data)} {is : List Issue} (hread : read content = .ok d)
    (hd : entriesOf? d = some es)
    (hcheck : Data.checkTemplate (.map (fillId id es)) = .fail (.issues is)) :
    Parses read id content (.error (.store (.invalid id (.issues is))))
  | notIterable {name : String} {d : Data} {es : List (Data × Data)} (hread : read content = .ok d)
    (hd : entriesOf? d = some es)
    (hcheck : Data.checkTemplate (.map (fillId id es)) = .fail (.notIterable name)) :
    Parses read id content (.error (.rejected (.notIterable name)))
  | template {d : Data} {es : List (Data × Data)} {t : Template} (hread : read content = .ok d)
    (hd : entriesOf? d = some es)
    (hcheck : Data.checkTemplate (.map (fillId id es)) = .pass t) :
    Parses read id content (.ok t)

/-- What makes a load fail otherwise than by a fault of the configuration. -/
inductive Escapes (read : Reader) (content : List UInt8) : Failure → Prop where
  | reading {f : Failure} (hread : read content = .error (.escaping f)) : Escapes read content f
  | notIterable {d v : Data} {es : List (Data × Data)} (hread : read content = .ok d)
    (hd : entriesOf? d = some es) (hv : lookup? es "detect_keywords" = some v) (hnull : v ≠ .null)
    (helements : v.elements? = none) :
    Escapes read content (.rejected (.notIterable v.typeName))

theorem content_of_entries (h : entriesOf? d = some es) :
    (if d.isEmptyValue then .map [] else d) = Data.map es := by
  rw [entriesOf?] at h
  split at h
  · next heq => rw [heq, Option.some.inj h]
  · cases h

theorem withId_of_entries (h : entriesOf? d = some es) :
    withId id d = .ok (.map (fillId id es)) := by
  rw [withId, content_of_entries h]
  rfl

theorem withId_of_no_entries (h : entriesOf? d = none) : withId id d =
    .error (.store (.unexpected id
      (Complaint.inQuotes d.typeName ++ " object has no attribute 'setdefault'"))) := by
  cases hempty : d.isEmptyValue with
  | true =>
    rw [entriesOf?, hempty] at h
    cases h
  | false =>
    rw [entriesOf?, hempty, if_neg (by simp)] at h
    rw [withId, hempty, if_neg (by simp)]
    cases d with
    | map es => cases h
    | _ => rfl

theorem parse_of_unread (hread : read content = .error u) :
    parseWith read id content = .error (u.failure id) := by
  rw [parseWith, hread]

theorem parse_of_no_entries (hread : read content = .ok d) (hd : entriesOf? d = none) :
    parseWith read id content = .error (.store (.unexpected id
      (Complaint.inQuotes d.typeName ++ " object has no attribute 'setdefault'"))) := by
  rw [parseWith, hread]
  dsimp only
  rw [withId_of_no_entries hd]
  rfl

def answerOf (id : String) : Check Template → Except Failure Template
  | .pass t => .ok t
  | .fail (.issues is) => .error (.store (.invalid id (.issues is)))
  | .fail (.notIterable name) => .error (.rejected (.notIterable name))

theorem parse_of_entries (hread : read content = .ok d) (hd : entriesOf? d = some es) :
    parseWith read id content = answerOf id (Data.checkTemplate (.map (fillId id es))) := by
  rw [parseWith, hread]
  dsimp only
  rw [withId_of_entries hd]
  simp only [bind, Except.bind]
  rcases Data.checkTemplate (.map (fillId id es)) with t | is | name <;> rfl

theorem parses_parse (read : Reader) (id : String) (content : List UInt8) :
    Parses read id content (parseWith read id content) := by
  cases hread : read content with
  | error u =>
    rw [parse_of_unread hread]
    exact .unread hread
  | ok d =>
    cases hd : entriesOf? d with
    | none =>
      rw [parse_of_no_entries hread hd]
      exact .notMapping hread hd
    | some es =>
      rw [parse_of_entries hread hd]
      rcases hcheck : Data.checkTemplate (.map (fillId id es)) with t | is | name
      · exact .template hread hd hcheck
      · exact .invalid hread hd hcheck
      · exact .notIterable hread hd hcheck

theorem Parses.parse_eq (h : Parses read id content answer) :
    parseWith read id content = answer := by
  cases h with
  | unread hread => exact parse_of_unread hread
  | notMapping hread hd => exact parse_of_no_entries hread hd
  | invalid hread hd hcheck | notIterable hread hd hcheck | template hread hd hcheck =>
    rw [parse_of_entries hread hd, hcheck]
    rfl

theorem parse_eq_iff : parseWith read id content = answer ↔ Parses read id content answer :=
  ⟨fun h => h ▸ parses_parse read id content, Parses.parse_eq⟩

theorem lookup_fillId {name : String} (hname : name ≠ "id") (id : String)
    (es : List (Data × Data)) : lookup? (fillId id es) name = lookup? es name := by
  rw [fillId]
  split
  · rfl
  · have hbeq : ("id" == name) = false := beq_false_of_ne hname.symm
    simp [lookup?, hbeq]

theorem Parses.escapes (h : Parses read id content (.error f))
    (hf : f.kind ≠ "ConfigurationError") : Escapes read content f := by
  cases h with
  | @unread u hread =>
    cases u with
    | malformed => exact absurd rfl hf
    | handled detail => exact absurd rfl hf
    | escaping f => exact .reading hread
  | notMapping => exact absurd rfl hf
  | invalid => exact absurd rfl hf
  | notIterable hread hd hcheck =>
    obtain ⟨v, hv, hnull, helements, rfl⟩ := Data.checkTemplate_eq_notIterable_iff.mp hcheck
    rw [lookup_fillId (by simp)] at hv
    exact .notIterable hread hd hv hnull helements

theorem answer_of_uncached (hread : s.disk.read (fileOf id) = .ok content)
    (h : s.cache.find? (·.1 == id) = none) :
    ((loadWith read id).on s).1 = parseWith read id content := by
  obtain ⟨records, hfile⟩ := @on_loadFile_of_read read id s content hread
  rw [on_load_of_uncached h, hfile]
  cases parseWith read id content <;> rfl

/-- Loading a template whose file can be read, however documents are read. The cache is asked first;
if it does not have the template, the answer is what the content is parsed as. A load that fails
otherwise than by a fault of the configuration does so because the reading fails in a way that is
not expected, or because the keywords are a single value. No load that fails leaves anything
behind. -/
theorem load_readable (read : Reader) (hread : s.disk.read (fileOf id) = .ok content) :
    let r := (loadWith read id).on s
    (∀ id' t, s.cache.find? (·.1 == id) = some (id', t) → r.1 = .ok t) ∧
    (s.cache.find? (·.1 == id) = none → ∀ answer, r.1 = answer ↔ Parses read id content answer) ∧
    (∀ f, r.1 = .error f → f.kind ≠ "ConfigurationError" → Escapes read content f) ∧
    (∀ f, r.1 = .error f → r.2.cache = s.cache ∧ r.2.disk = s.disk) := by
  intro r
  have hcached {id' : String} {t : Template} (h : s.cache.find? (·.1 == id) = some (id', t)) :
      r.1 = .ok t := congrArg Prod.fst (on_load_of_cached h)
  have hparse : s.cache.find? (·.1 == id) = none → r.1 = parseWith read id content :=
    answer_of_uncached hread
  have hfailed {f : Failure} (hf : r.1 = .error f) :
      s.cache.find? (·.1 == id) = none ∧ parseWith read id content = .error f := by
    cases hfind : s.cache.find? (·.1 == id) with
    | some e =>
      rw [hcached hfind] at hf
      cases hf
    | none => exact ⟨rfl, (hparse hfind).symm.trans hf⟩
  refine ⟨fun _ _ => hcached, fun h answer => by rw [hparse h, parse_eq_iff],
    fun f hf => (parse_eq_iff.mp (hfailed hf).2).escapes, fun f hf => ?_⟩
  obtain ⟨hfind, herror⟩ := hfailed hf
  obtain ⟨records, hfile⟩ := @on_loadFile_of_read read id s content hread
  change ((loadWith read id).on s).2.cache = _ ∧ ((loadWith read id).on s).2.disk = _
  rw [on_load_of_uncached hfind, hfile, herror]
  exact ⟨rfl, rfl⟩

theorem load_readable_undecodable :
    let disk : Disk := ⟨["d".toList], [(["d".toList, fileOf "a"], .file [255])]⟩
    disk.read (fileOf "a") = .ok [255] ∧
      ((loadWith readDocument "a").on ⟨"d", disk, [], []⟩).1 = .error .undecodable := by
  intro disk
  have hread : disk.read (fileOf "a") = .ok [255] := rfl
  obtain ⟨-, hparses, -, -⟩ := load_readable (s := ⟨"d", disk, [], []⟩) readDocument hread
  have hdecode : Data.decodeBytes? [255] = none := by decide
  have hfails : readDocument [255] = .error (.escaping .undecodable) := by
    rw [readDocument, hdecode]
  exact ⟨hread, (hparses rfl _).mpr (.unread hfails)⟩

/-- A number in the place of the keywords is no fault of the configuration, and a document that is
nothing but a zero is loaded as a template. -/
theorem load_number :
    let disk (text : String) : Disk :=
      ⟨["d".toList], [(["d".toList, fileOf "a"], .file text.toUTF8.toList)]⟩
    let answer (text : String) := ((load "a").on ⟨"d", disk text, [], []⟩).1
    (∃ f, answer "detect_keywords: 5\n" = .error f ∧ f.kind = "TypeError") ∧
      Yaml.load "0\n".toList = .ok (.int 0) ∧ answer "0\n" = .ok (Template.named "a" "") := by
  intro disk answer
  have hanswer (text : String) : answer text = parse "a" text.toUTF8.toList :=
    answer_of_uncached (s := ⟨"d", disk text, [], []⟩) rfl rfl
  have hdocument {text : String} {d : Data} (h : Yaml.load text.toList = .ok d) :
      readDocument text.toUTF8.toList = .ok d := by
    rw [readDocument, Data.decodeBytes_toUTF8]
    dsimp only
    rw [h]
    rfl
  have hzero : Yaml.load "0\n".toList = .ok (.int 0) := by cbv
  refine ⟨?_, hzero, ?_⟩
  · have hname := isName_of_mem (k := "detect_keywords") (by decide)
    have hprint : Yaml.print [("detect_keywords".toList, .bare ['5'])] =
        "detect_keywords: 5\n" := by
      have htext : (Yaml.Pen.start.toColumn 0).text (0 + 2) "detect_keywords".toList =
          { Yaml.Pen.start.put "detect_keywords".toList with spaced := false, indenting := false } :=
        Yaml.Pen.text_name rfl hname.2 (by decide)
      rw [Yaml.print, List.isEmpty_cons, if_neg (by simp), Yaml.Pen.blockEntries, htext]
      decide
    have hload : Yaml.load "detect_keywords: 5\n".toList =
        .ok (.map [(.text "detect_keywords", .int 5)]) := by
      rw [← hprint]
      exact Yaml.load_print (.cons ⟨hname, rfl, Yaml.Stands.number (n := 5) (by simp) (by decide)⟩
        .nil) (by simp) (by simp)
    have hparses : Parses readDocument "a" "detect_keywords: 5\n".toUTF8.toList _ :=
      .notIterable (hdocument hload) rfl rfl
    exact ⟨_, (hanswer _).trans hparses.parse_eq, rfl⟩
  · have hparses : Parses readDocument "a" "0\n".toUTF8.toList _ :=
      .template (hdocument hzero) rfl rfl
    exact (hanswer _).trans hparses.parse_eq

end OrderSheet.Store
