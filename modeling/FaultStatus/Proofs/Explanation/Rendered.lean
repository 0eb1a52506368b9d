/-
The written form of an explanation keeps everything. It has three lines,
and no text in it can begin another (`Text.StaysOnLine`), so that its two
line ends are those between the lines. Each line is read from its left end:
a quoted text says by itself where it ends, the names of the tiers begin
differently, and what is left at the end of a line is the status alone.
-/
import FaultStatus.Explanation
import FaultStatus.Proofs.Text.Quoted

namespace FaultStatus

open Text

-- =============================================================== statuses

theorem GrpcStatus.find?_display (status : GrpcStatus) :
    all.find? (fun other => other.display = status.display)
      = some status := by
  cases status <;> decide +kernel

theorem GrpcStatus.display_injective {s t : GrpcStatus}
    (h : s.display = t.display) : s = t := by
  have hs := s.find?_display
  rw [h, t.find?_display] at hs
  exact (Option.some.inj hs).symm

theorem HttpStatus.toString_injective {s t : HttpStatus}
    (h : toString s.toNat = toString t.toNat) : s = t :=
  UInt16.toNat_inj.1 (Text.toString_injective h)

theorem GrpcStatus.staysOnLine_display (status : GrpcStatus) :
    StaysOnLine status.display.toList := by
  cases status <;> decide +kernel

-- ================================================================== tiers

namespace Source

/-- The mention of the pattern, if there is one. -/
def mention (source : Source) : String :=
  match source.pattern? with
  | none => ""
  | some pattern => " pattern=" ++ quote pattern

/-- A tier as a line names it, with its pattern. -/
def written (source : Source) : String := source.label ++ source.mention

/-- The name of the tier says by itself where it ends, and so does the
pattern. -/
theorem written_append_inj {s t : Source} {xs ys : List Char}
    (h : s.written.toList ++ xs = t.written.toList ++ ys) :
    s = t ∧ xs = ys := by
  -- no two names of tiers begin with the same letter
  cases s <;> cases t <;>
    simp only [written, label, mention, pattern?, String.toList_append,
      List.append_assoc] at h
  case override.override | default.default | fallback.fallback =>
      exact ⟨rfl, List.append_cancel_left (List.append_cancel_left h)⟩
  case prefixHit.prefixHit p q =>
      obtain ⟨rfl, hrest⟩ := quote_append_inj (List.append_cancel_left
        (List.append_cancel_left h))
      exact ⟨rfl, hrest⟩
  all_goals simp at h

theorem staysOnLine_mention (source : Source) :
    StaysOnLine source.mention.toList := by
  unfold mention
  cases source.pattern? with
  | none => decide +kernel
  | some pattern =>
      show StaysOnLine (" pattern=" ++ quote pattern).toList
      rw [String.toList_append]
      exact StaysOnLine.append (by decide +kernel)
        (printable_quote pattern).staysOnLine

theorem staysOnLine_written (source : Source) :
    StaysOnLine source.written.toList := by
  have hlabel : StaysOnLine source.label.toList := by
    cases source with
    | prefixHit pattern =>
        show StaysOnLine "prefix".toList
        decide +kernel
    | override | default | fallback => decide +kernel
  unfold written
  rw [String.toList_append]
  exact hlabel.append source.staysOnLine_mention

end Source

-- ================================================================== lines

namespace Resolution

variable {V : Type} {family : Family} {display : V → String}

theorem toList_render (family : Family) (display : V → String)
    (resolution : Resolution V) :
    (resolution.render family display).toList
      = (family.label ++ ": source=").toList
        ++ (resolution.source.written.toList
          ++ (" -> ".toList ++ (display resolution.value).toList)) := by
  have hrender : resolution.render family display = family.label
      ++ ": source=" ++ resolution.source.label ++ resolution.source.mention
      ++ " -> " ++ display resolution.value := rfl
  rw [hrender]
  simp only [Source.written, String.toList_append, List.append_assoc]

theorem render_injective (hdisplay : ∀ v w, display v = display w → v = w)
    {r s : Resolution V}
    (h : (r.render family display).toList
      = (s.render family display).toList) : r = s := by
  rw [toList_render, toList_render] at h
  obtain ⟨hsource, hrest⟩ :=
    Source.written_append_inj (List.append_cancel_left h)
  have hvalue := hdisplay _ _
    (String.toList_injective (List.append_cancel_left hrest))
  obtain ⟨v, source⟩ := r
  cases hsource
  cases hvalue
  rfl

theorem staysOnLine_render (hdisplay : ∀ v, StaysOnLine (display v).toList)
    (resolution : Resolution V) :
    StaysOnLine (resolution.render family display).toList := by
  rw [toList_render]
  refine StaysOnLine.append (by cases family <;> decide +kernel) ?_
  refine resolution.source.staysOnLine_written.append ?_
  exact StaysOnLine.append (by decide +kernel) (hdisplay resolution.value)

end Resolution

-- ================================================================ the whole

theorem Text.StaysOnLine.append_cons_inj {xs ys zs ws : List Char}
    (hxs : StaysOnLine xs) (hys : StaysOnLine ys)
    (h : xs ++ '\n' :: zs = ys ++ '\n' :: ws) : xs = ys ∧ zs = ws := by
  have hcut : ∀ {cs : List Char}, StaysOnLine cs → '\n' ∉ cs :=
    fun hcs hmem => absurd (hcs '\n' hmem) (by decide)
  exact append_cons_inj_of_not_mem (hcut hxs) (hcut hys) h

namespace Explanation

/-- The first line: what was asked. -/
def firstLine (explanation : Explanation) : List Char :=
  "code=".toList ++ ((quote explanation.code.text).toList
    ++ (" reason=".toList ++ (quote explanation.reason.text).toList))

/-- The second line: the answer of HTTP. -/
def httpLine (explanation : Explanation) : List Char :=
  (explanation.answers.http.render .http (toString ·.toNat)).toList

/-- The third line: the answer of gRPC. -/
def grpcLine (explanation : Explanation) : List Char :=
  (explanation.answers.grpc.render .grpc GrpcStatus.display).toList

theorem toList_render (explanation : Explanation) :
    explanation.render.toList = explanation.firstLine
      ++ '\n' :: (explanation.httpLine ++ '\n' :: explanation.grpcLine) := by
  unfold render firstLine httpLine grpcLine
  simp only [String.toList_append, List.append_assoc]
  rfl

theorem staysOnLine_firstLine (explanation : Explanation) :
    StaysOnLine explanation.firstLine := by
  refine StaysOnLine.append (by decide +kernel) ?_
  refine (printable_quote _).staysOnLine.append ?_
  exact StaysOnLine.append (by decide +kernel) (printable_quote _).staysOnLine

theorem staysOnLine_httpLine (explanation : Explanation) :
    StaysOnLine explanation.httpLine := by
  refine Resolution.staysOnLine_render ?_ explanation.answers.http
  intro status
  exact (printable_toString status.toNat).staysOnLine

theorem staysOnLine_grpcLine (explanation : Explanation) :
    StaysOnLine explanation.grpcLine :=
  Resolution.staysOnLine_render GrpcStatus.staysOnLine_display
    explanation.answers.grpc

theorem grpcLine_ne_nil (explanation : Explanation) :
    explanation.grpcLine ≠ [] := by
  unfold grpcLine
  rw [Resolution.toList_render]
  exact List.append_ne_nil_of_left_ne_nil (by decide +kernel) _

theorem eq_of_lines_eq {e f : Explanation}
    (hfirst : e.firstLine = f.firstLine) (hhttp : e.httpLine = f.httpLine)
    (hgrpc : e.grpcLine = f.grpcLine) : e = f := by
  obtain ⟨hcode, hreason⟩ :=
    quote_append_inj (List.append_cancel_left hfirst)
  have hreason := List.append_cancel_left hreason
  rw [← List.append_nil (quote e.reason.text).toList,
    ← List.append_nil (quote f.reason.text).toList] at hreason
  have hhttp := Resolution.render_injective
    (fun _ _ => HttpStatus.toString_injective) hhttp
  have hgrpc := Resolution.render_injective
    (fun _ _ => GrpcStatus.display_injective) hgrpc
  obtain ⟨⟨code⟩, ⟨reason⟩, ⟨http, grpc⟩⟩ := e
  obtain ⟨⟨code'⟩, ⟨reason'⟩, ⟨http', grpc'⟩⟩ := f
  cases hcode
  cases (quote_append_inj hreason).1
  cases hhttp
  cases hgrpc
  rfl

/-- The written form has two line ends and no other control character, does
not end in a line end, and is that of no other explanation. -/
theorem render_lossless (explanation : Explanation) :
    explanation.render.toList.filter isControl = ['\n', '\n']
      ∧ explanation.render.toList.getLast? ≠ some '\n'
      ∧ ∀ other : Explanation,
          other.render = explanation.render ↔ other = explanation := by
  have hfirst := explanation.staysOnLine_firstLine
  have hhttp := explanation.staysOnLine_httpLine
  have hgrpc := explanation.staysOnLine_grpcLine
  refine ⟨?_, ?_, fun other => ⟨fun h => ?_, fun h => by rw [h]⟩⟩
  · rw [toList_render, List.filter_append, List.filter_cons,
      List.filter_append, List.filter_cons, hfirst.filter_isControl,
      hhttp.filter_isControl, hgrpc.filter_isControl]
    rfl
  · obtain ⟨c, hc⟩ := Option.isSome_iff_exists.1
      (List.getLast?_isSome.2 explanation.grpcLine_ne_nil)
    intro hlast
    rw [toList_render, List.append_cons, ← List.append_assoc,
      List.append_cons, List.getLast?_append, hc] at hlast
    cases hlast
    exact absurd (hgrpc '\n' (List.mem_of_getLast? hc)) (by decide)
  · have hlists := congrArg String.toList h
    rw [toList_render, toList_render] at hlists
    obtain ⟨hline, hlists⟩ :=
      other.staysOnLine_firstLine.append_cons_inj hfirst hlists
    obtain ⟨hline', hline''⟩ :=
      other.staysOnLine_httpLine.append_cons_inj hhttp hlists
    exact eq_of_lines_eq hline hline' hline''

end Explanation

end FaultStatus
