import Interplay.Proofs.Traversal.Addresses
import Interplay.Proofs.Value.Mention

/-!
Formulas without closures.

A formula can name closures in its literals and as names of arguments.  None that a document was
read into does, since documents have no closures.
-/

namespace Interplay

/-- The literals and the argument names of the formula mention no closures. -/
structure Formula.IsBare (formula : Formula) : Prop where
  literal : ∀ content, formula = .value content → content.HasNoClosures
  names : ∀ argument ∈ formula.arguments, argument.name.HasNoClosures

namespace Value

theorem no_closures_of_unfilled {value : Value} (unfilled : ¬value.isFilled = true) :
    value.HasNoClosures := by
  intro handle mentioned
  cases mentioned with
  | here tag => exact unfilled rfl
  | item member inside => exact unfilled (by simpa [isFilled] using List.ne_nil_of_mem member)
  | key member => exact unfilled (by simpa [isFilled] using List.ne_nil_of_mem member)
  | content member inside => exact unfilled (by simpa [isFilled] using List.ne_nil_of_mem member)

theorem IsJson.filled {value : Value} (json : value.IsJson) : value.filled.IsJson := by
  unfold Value.filled orElse
  split
  · exact json
  · exact is_json_null

theorem IsJson.reach {source found : Value} (json : source.IsJson)
    {label : String} {location : Location}
    (reached : source.reach? label location = some found) : found.IsJson := by
  induction location generalizing label source with
  | nil =>
      cases reached
      exact json
  | cons segment rest ih =>
      obtain ⟨part, present, further⟩ := Option.bind_eq_some_iff.mp reached
      have inner := json.keptPart label segment
      rw [present] at inner
      exact ih inner further

end Value

namespace Formula

theorem names_of_read {source : Value} (json : source.IsJson) {items : List Argument}
    (read : readArguments source = .ok items) : ∀ argument ∈ items,
    argument.name.HasNoClosures := by
  intro argument member
  obtain ⟨position, listed⟩ := List.mem_iff_getElem?.mp member
  obtain ⟨entry, kept, -, named⟩ := each_argument read position argument listed
  rw [named]
  exact Value.no_closures_of_json ((json.kept (List.mem_of_getElem? kept)).field "name").filled

theorem literal_of_read {source content : Value} (json : source.IsJson)
    (done : read source = .ok (some (.value content))) : content.IsJson := by
  cases source with
  | scalar | list =>
      rw [read_of_no_object rfl] at done
      cases done
  | mapping entries =>
      rw [read] at done
      split at done
      case h_1 =>
        cases done
        exact json.field "value"
      case h_2 =>
        obtain ⟨segments, _, made⟩ := ok_of_bind done
        cases made
      case h_3 | h_4 =>
        obtain ⟨name, _, rest⟩ := ok_of_bind done
        obtain ⟨items, _, made⟩ := ok_of_bind rest
        cases made
      case h_5 | h_6 | h_7 | h_8 | h_9 =>
        obtain ⟨items, _, made⟩ := ok_of_bind done
        cases made
      case h_10 =>
        obtain ⟨cases, _, rest⟩ := ok_of_bind done
        obtain ⟨fallback, _, made⟩ := ok_of_bind rest
        cases made
      case h_11 => cases done

theorem bare_of_read {source : Value} (json : source.IsJson) {formula : Formula}
    (done : read source = .ok (some formula)) : formula.IsBare where
  literal := by
    rintro content rfl
    exact Value.no_closures_of_json (literal_of_read json done)
  names := by
    have parts := parts_of_read done
    cases formula with
    | value | path | switch => exact nofun
    | function | apply | object | record | array | or | and =>
        exact names_of_read (json.field "arguments") parts

end Formula

/-- The walk over a component that was read from a document comes to bare formulas only. -/
theorem Component.bare_of_visit {source : Value} (json : source.IsJson) {component : Component}
    (read : Component.read source = .ok (some component)) {package : Value} {visit : FormulaVisit}
    (member : visit ∈ component.formulaVisits package) : visit.formula.IsBare := by
  obtain ⟨found, reached, foundRead⟩ := Value.addresses_component json read package visit member
  exact Formula.bare_of_read (json.reach reached) foundRead

end Interplay
