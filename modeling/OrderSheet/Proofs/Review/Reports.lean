import OrderSheet.Proofs.Review.Verdict
import OrderSheet.Proofs.Template.Checked
import OrderSheet.Proofs.Template.Halting

/-!
# Reporting to a review

A finding is made from raw values before anything is done to the review, so a report that is
rejected leaves the review as it is. A review is therefore valid as long as it has no errors, and
each of its lists holds the findings of one severity in the order in which they were reported.
-/

namespace OrderSheet

variable {call : Report} {f : Finding}

namespace Data

theorem goesOn_checkDetail : GoesOn checkDetail := by
  intro d
  have htext := goesOn_checkText d
  rw [checkDetail.eq_def]
  split
  · rfl
  · rfl
  · rfl
  · rfl
  · split
    · rfl
    · next x hx =>
      rw [hx] at htext
      cases x with
      | issues is =>
        simp only [Check.halt?_seq, Check.halt?_map, Check.halt?_inside,
          goesOn_checkInteger d, goesOn_checkTruth d, Check.halt?_complain,
          Option.or_none]
        rfl
      | notIterable name => cases htext

theorem halt?_checkDetailEntries (entries : List (Data × Data)) :
    (checkDetailEntries entries).halt? = none := by
  induction entries with
  | nil => rfl
  | cons e es ih =>
    simp only [checkDetailEntries, checkDetailEntry, Check.halt?_seq, Check.halt?_map,
      Check.halt?_inside, goesOn_checkText e.1, goesOn_checkDetail e.2, ih, Option.or_none]

theorem goesOn_checkDetails : GoesOn checkDetails := by
  intro d
  cases d with
  | map entries => exact (Check.halt?_map _ _).trans (halt?_checkDetailEntries entries)
  | _ => rfl

def ofDetail : Detail → Data
  | .text s => .text s
  | .int n => .int n
  | .real x => .real x
  | .truth b => .bool b

def ofDetails (details : List (String × Detail)) : Data :=
  .map (details.map fun e => (.text e.1, ofDetail e.2))

theorem checkDetail_ofDetail (x : Detail) : checkDetail (ofDetail x) = .pass x := by
  cases x <;> rfl

theorem checkDetailEntries_ofDetails (details : List (String × Detail)) :
    checkDetailEntries (details.map fun e => (.text e.1, ofDetail e.2)) = .pass details := by
  induction details with
  | nil => rfl
  | cons e es ih =>
    rw [List.map_cons, checkDetailEntries, ih, checkDetailEntry, checkDetail_ofDetail]
    rfl

theorem putDetail_of_not_mem {details : List (String × Detail)} {entry : String × Detail}
    (h : entry.1 ∉ details.map Prod.fst) : putDetail details entry = details ++ [entry] := by
  induction details with
  | nil => rfl
  | cons e es ih =>
    rw [List.map_cons, List.mem_cons, not_or] at h
    rw [putDetail, if_neg (Ne.symm h.1), ih h.2, List.cons_append]

theorem foldl_putDetail (kept details : List (String × Detail))
    (h : ((kept ++ details).map Prod.fst).Nodup) :
    details.foldl putDetail kept = kept ++ details := by
  induction details generalizing kept with
  | nil => simp
  | cons e es ih =>
    have hnew : e.1 ∉ kept.map Prod.fst := by
      rw [List.map_append, List.nodup_append] at h
      exact fun hmem => h.2.2 _ hmem _ (by simp) rfl
    rw [List.foldl_cons, putDetail_of_not_mem hnew, ih _ (by simpa using h)]
    simp

theorem checkDetails_ofDetails {details : List (String × Detail)}
    (h : (details.map Prod.fst).Nodup) : checkDetails (ofDetails details) = .pass details := by
  rw [ofDetails, checkDetails, checkDetailEntries_ofDetails, Check.map_pass,
    foldl_putDetail [] details h, List.nil_append]

/-- Null stands for nothing, and no other value does. -/
theorem checkOptional_elim {α : Type} {check : Data → Check α} {value : α → Data} {o : Option α}
    (hvalue : ∀ a, value a ≠ .null) (h : ∀ a ∈ o, check (value a) = .pass a) :
    (o.elim .null value).checkOptional check = .pass o := by
  cases o with
  | none => rfl
  | some a =>
    rw [Option.elim_some, checkOptional.eq_def]
    split
    · exact absurd ‹_› (hvalue a)
    · rw [h a rfl]
      rfl

end Data

namespace Report

/-- The finding says what is reported: each of its parts is what the check makes of the value that
is given for it. -/
structure Gives (call : Report) (f : Finding) : Prop where
  severity : f.severity = call.severity
  message : call.message.checkText = .pass f.message
  field : call.field.checkOptional Data.checkText = .pass f.field
  code : call.code.checkOptional Data.checkText = .pass f.code
  product : call.product.checkOptional Data.checkPositive = .pass f.product
  context : call.context.checkOptional Data.checkDetails = .pass f.context

theorem check_eq (call : Report) : call.check = Finding.mk call.severity <$>
    Check.inside "field" (call.field.checkOptional Data.checkText) <*>
    Check.inside "message" call.message.checkText <*>
    Check.inside "code" (call.code.checkOptional Data.checkText) <*>
    Check.inside "item_index" (call.product.checkOptional Data.checkPositive) <*>
    Check.inside "context" (call.context.checkOptional Data.checkDetails) := rfl

theorem check_eq_pass_iff : call.check = .pass f ↔ call.Gives f := by
  simp only [check_eq, Check.seq_eq_pass, Check.map_eq_pass, Check.inside_eq_pass]
  constructor
  · rintro ⟨_, context, ⟨_, product, ⟨_, code, ⟨_, message, ⟨field, hfield, rfl⟩, hmessage, rfl⟩,
      hcode, rfl⟩, hproduct, rfl⟩, hcontext, rfl⟩
    exact ⟨rfl, hmessage, hfield, hcode, hproduct, hcontext⟩
  · rintro ⟨hseverity, hmessage, hfield, hcode, hproduct, hcontext⟩
    exact ⟨_, _, ⟨_, _, ⟨_, _, ⟨_, _, ⟨_, hfield, rfl⟩, hmessage, rfl⟩, hcode, rfl⟩, hproduct, rfl⟩,
      hcontext, by rw [← hseverity]⟩

def finding? (call : Report) : Option Finding :=
  match call.check with
  | .pass f => some f
  | .fail _ => none

theorem finding?_eq_some_iff : call.finding? = some f ↔ call.Gives f := by
  rw [← check_eq_pass_iff, finding?]
  cases call.check <;> simp

def Accepted (call : Report) : Prop := ∃ f, call.Gives f

theorem isSome_finding?_iff : call.finding?.isSome = true ↔ call.Accepted := by
  simp only [Option.isSome_iff_exists, finding?_eq_some_iff, Accepted]

instance : DecidablePred Accepted := fun _ => decidable_of_iff _ isSome_finding?_iff

/-- Nothing that is reported stops its check at once. -/
theorem halt?_check (call : Report) : call.check.halt? = none := by
  simp only [check_eq, Check.halt?_seq, Check.halt?_map, Check.halt?_inside,
    Data.goesOn_checkText _, Data.goesOn_checkText.optional _,
    Data.goesOn_checkPositive.optional _, Data.goesOn_checkDetails.optional _, Option.or_none]

end Report

namespace Finding

/-- A finding counts its product from 1, and its details have different keys. -/
structure Proper (f : Finding) : Prop where
  product : ∀ n ∈ f.product, 1 ≤ n
  context : ∀ details ∈ f.context, (details.map Prod.fst).Nodup

def report (f : Finding) : Report where
  severity := f.severity
  message := .text f.message
  field := f.field.elim .null .text
  code := f.code.elim .null .text
  product := f.product.elim .null fun n => .int n
  context := f.context.elim .null Data.ofDetails

/-- A proper finding can be reported, and what is found is the finding itself. -/
theorem Proper.gives (h : f.Proper) : f.report.Gives f where
  severity := rfl
  message := rfl
  field := Data.checkOptional_elim (by simp) fun _ _ => rfl
  code := Data.checkOptional_elim (by simp) fun _ _ => rfl
  product := by
    have hcheck : ∀ n ∈ f.product, Data.checkPositive (.int n) = .pass n := by
      intro n hn
      have hpositive : (1 : Int) ≤ n := by exact_mod_cast h.product n hn
      rw [Data.checkPositive, Data.checkInteger, Check.andThen, if_pos hpositive, Int.toNat_natCast]
    exact Data.checkOptional_elim (by simp) hcheck
  context := by
    refine Data.checkOptional_elim (by simp [Data.ofDetails]) fun details hdetails => ?_
    exact Data.checkDetails_ofDetails (h.context details hdetails)

end Finding

namespace Review

/-- What a report can come to: the finding that it gives is added, or it gives none, there are
issues with its parts, and the review stays as it is. -/
inductive Response (r : Review) (call : Report) : Except Rejection Unit × Review → Prop where
  | accepted {f : Finding} (h : call.Gives f) : Response r call (.ok (), r.add f)
  | rejected {is : List Issue} (h : ¬ call.Accepted) : Response r call (.error (.issues is), r)

theorem run_report_of_pass (h : call.Gives f) (r : Review) :
    (report call).run.run r = (.ok (), r.add f) := by
  rw [report, Report.check_eq_pass_iff.mpr h]
  obtain ⟨hseverity, -⟩ := h
  rw [add, hseverity]
  cases call.severity <;> rfl

theorem response_report (r : Review) (call : Report) :
    Response r call ((report call).run.run r) := by
  cases h : call.check with
  | pass f =>
    have hgives := Report.check_eq_pass_iff.mp h
    rw [run_report_of_pass hgives]
    exact .accepted hgives
  | fail x =>
    have hnot : ¬ call.Accepted := by
      rintro ⟨f, hf⟩
      rw [Report.check_eq_pass_iff.mpr hf] at h
      cases h
    cases x with
    | issues is =>
      rw [report, h]
      exact .rejected hnot
    | notIterable name =>
      have hhalt := call.halt?_check
      rw [h] at hhalt
      cases hhalt

/-- Only accepted reports leave something in a review. -/
theorem reportAll_eq (r : Review) (calls : List Report) :
    r.reportAll calls = r.addAll (calls.filterMap Report.finding?) := by
  induction calls generalizing r with
  | nil => rfl
  | cons call calls ih =>
    rw [reportAll_cons, ih, List.filterMap_cons]
    have hresponse := response_report r call
    generalize (report call).run.run r = response at hresponse
    cases hresponse with
    | accepted h => rw [Report.finding?_eq_some_iff.mpr h, addAll_cons]
    | rejected h =>
      rw [← Report.isSome_finding?_iff, Option.not_isSome_iff_eq_none] at h
      rw [h]

theorem gives_filterMap (calls : List Report) (s : Severity) :
    List.Forall₂ Report.Gives (calls.filter fun call => call.severity = s ∧ call.Accepted)
      ((calls.filterMap Report.finding?).filter (·.severity = s)) := by
  induction calls with
  | nil => exact .nil
  | cons call calls ih =>
    cases h : call.finding? with
    | none =>
      have hnot : ¬ call.Accepted := by simp [← Report.isSome_finding?_iff, h]
      rw [List.filter_cons_of_neg (by simp [hnot]), List.filterMap_cons, h]
      exact ih
    | some f =>
      have hgives := Report.finding?_eq_some_iff.mp h
      have haccepted : call.Accepted := ⟨f, hgives⟩
      rw [List.filterMap_cons, h]
      by_cases hs : call.severity = s
      · rw [List.filter_cons_of_pos (by simp [hs, haccepted]),
          List.filter_cons_of_pos (by simpa [hgives.severity] using hs)]
        exact .cons hgives ih
      · rw [List.filter_cons_of_neg (by simp [hs]),
          List.filter_cons_of_neg (by simpa [hgives.severity] using hs)]
        exact ih

/-- A review agrees with itself, whatever has been reported to it: it is valid just if it has no
errors, and each of its lists has one finding for each accepted report of its severity, in the order
of the reports, with what has been given for it. A further report adds the finding that it gives or,
if there is none, leaves all of the review as it is; and every proper finding can be reported as it
is. -/
theorem reportAll_consistent (calls : List Report) :
    let r := empty.reportAll calls
    (r.valid = true ↔ r.errors = []) ∧
    (∀ s, ∀ f ∈ r.reported s, f.severity = s) ∧
    (∀ s, List.Forall₂ Report.Gives (calls.filter fun call => call.severity = s ∧ call.Accepted)
      (r.reported s)) ∧
    (∀ call, Response r call ((report call).run.run r)) ∧
    ∀ f : Finding, f.Proper → (report f.report).run.run r = (.ok (), r.add f) := by
  intro r
  have hr : r = empty.addAll (calls.filterMap Report.finding?) := reportAll_eq empty calls
  have hlists (s : Severity) :
      r.reported s = (calls.filterMap Report.finding?).filter (·.severity = s) := by
    rw [hr, reported_addAll]
    cases s <;> rfl
  refine ⟨?_, fun s f hf => ?_, fun s => ?_, response_report r, fun f hf => ?_⟩
  · rw [hr]
    exact consistent_empty.addAll _
  · rw [hlists] at hf
    simpa using (List.mem_filter.mp hf).2
  · rw [hlists]
    exact gives_filterMap calls s
  · exact run_report_of_pass hf.gives r

theorem reportAll_consistent_some_rejected :
    let early : Report := ⟨.error, .text "early", .null, .null, .int 0, .null⟩
    let odd : Report := .note (.text "odd") .null .null (.map [(.text "rows", .list [])])
    let warning : Finding := ⟨.warning, some "total", "off", none, none, none⟩
    let error : Finding := ⟨.error, none, "none left", none, some 2, some [("count", .int 0)]⟩
    let r := empty.reportAll [early, warning.report, odd]
    r = ⟨true, [], [warning], []⟩ ∧ error.Proper ∧
      (report error.report).run.run r = (.ok (), ⟨false, [error], [warning], []⟩) := by
  intro early odd warning error r
  have hr : r = ⟨true, [], [warning], []⟩ := rfl
  have hproper : error.Proper := ⟨by simp [error], by simp [error]⟩
  obtain ⟨-, -, -, -, hreport⟩ := reportAll_consistent [early, warning.report, odd]
  refine ⟨hr, hproper, (hreport error hproper).trans ?_⟩
  rw [show empty.reportAll [early, warning.report, odd] = _ from hr]
  rfl

end Review

end OrderSheet
