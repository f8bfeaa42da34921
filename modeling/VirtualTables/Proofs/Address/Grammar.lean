import VirtualTables.Proofs.Address.RoundTrip
import VirtualTables.Proofs.Address.Slicing
import VirtualTables.Session

/-!
Which texts are addresses.

Host, port and rest are found by searches that begin where the one before ended. `Divides` says
what they are without any search, and `IsFirstReason` what is wrong with a text that has no such
parts.
-/

namespace VirtualTables

namespace Text

/-- A mark whose first character stands nowhere else in it cannot overlap with itself. -/
theorem isFirst_cons_iff {first : Char} {more content : List Char} (fresh : first ∉ more) :
    IsFirst (first :: more) content ↔ ¬ (first :: more) <:+: content := by
  have size : (first :: more).dropLast.length = more.length := List.length_dropLast
  rw [IsFirst, not_iff_not]
  constructor
  · rintro ⟨before, after, occurs⟩
    rw [List.append_assoc] at occurs
    -- An occurrence that ends in the content is what is looked for. One that reaches beyond it has
    -- the first character of the mark a second time, and one that begins beyond it has no room.
    rcases List.append_eq_append_iff.mp occurs with ⟨begun, rfl, rest⟩ | ⟨extra, -, rest⟩
    · rcases List.append_eq_append_iff.mp rest with ⟨left, rfl, -⟩ | ⟨left, split, behind⟩
      · exact ⟨before, left, by simp⟩
      · rcases begun with _ | ⟨_, begun⟩
        · have := congrArg List.length behind
          rw [List.nil_append] at split
          rw [← split, size] at this
          simp at this
          omega
        · obtain ⟨rfl, rfl⟩ := List.cons.inj split
          rcases left with _ | ⟨character, left⟩
          · exact ⟨before, [], by simp⟩
          · rw [List.dropLast_cons_of_ne_nil (by simp)] at behind
            obtain ⟨rfl, -⟩ := List.cons.inj behind
            simp at fresh
    · have := congrArg List.length rest
      rw [size] at this
      simp at this
      omega
  · exact fun inside => inside.trans (List.prefix_append content _).isInfix

theorem isFirst_singleton_iff {mark : Char} {content : List Char} :
    IsFirst [mark] content ↔ mark ∉ content := by
  rw [isFirst_cons_iff List.not_mem_nil, not_iff_not]
  constructor
  · rintro ⟨before, after, rfl⟩
    simp
  · intro inside
    obtain ⟨before, after, rfl⟩ := List.append_of_mem inside
    exact ⟨before, after, by simp⟩

end Text

namespace Address

/-- A text writes an address with a host, a port and what follows the path of the services. -/
structure Divides (text host port rest : List Char) : Prop where
  split : text = start.toList ++ host ++ ':' :: (port ++ servicePath.toList ++ rest)
  hostGiven : host ≠ []
  hostPlain : ':' ∉ host
  portGiven : port ≠ []
  portPlain : ¬ servicePath.toList <:+: port

variable {text host port rest : List Char}

theorem isFirst_servicePath_iff {content : List Char} :
    Text.IsFirst servicePath.toList content ↔ ¬ servicePath.toList <:+: content :=
  Text.isFirst_cons_iff (by decide : '/' ∉ "kettle".toList)

theorem divides_iff : Divides text host port rest ↔ parts? text = .ok (host, port, rest) := by
  rw [parts?_eq_ok_iff, Text.isFirst_singleton_iff, isFirst_servicePath_iff]
  constructor
  · rintro ⟨split, hostGiven, hostPlain, portGiven, portPlain⟩
    exact ⟨by simp [split], ⟨hostPlain, hostGiven⟩, portPlain, portGiven⟩
  · rintro ⟨split, ⟨hostPlain, hostGiven⟩, portPlain, portGiven⟩
    exact ⟨by simp [split], hostGiven, hostPlain, portGiven, portPlain⟩

/-- What can be wrong with a text, in the order in which it is looked for. -/
def reasons : List AddressFault :=
  [.wrongStart, .missingPort, .missingService, .emptyHost, .emptyPort]

def Applies (text : List Char) : AddressFault → Prop
  | .wrongStart => ¬ start.toList <+: text
  | .missingPort => ∃ behind, text = start.toList ++ behind ∧ ':' ∉ behind
  | .missingService => ∃ host behind, text = start.toList ++ host ++ ':' :: behind ∧ ':' ∉ host ∧
      ¬ servicePath.toList <:+: behind
  | .emptyHost => ∃ behind, text = start.toList ++ ':' :: behind
  | .emptyPort => ∃ host rest, text = start.toList ++ host ++ ':' :: (servicePath.toList ++ rest) ∧
      ':' ∉ host
  | .stated _ => False

/-- Of all that is wrong with a text this is what is found first. -/
def IsFirstReason (text : List Char) (reason : AddressFault) : Prop :=
  ∃ earlier later, reasons = earlier ++ reason :: later ∧ Applies text reason ∧
    ∀ other ∈ earlier, ¬ Applies text other

open Classical in
theorem isFirstReason_iff {reason : AddressFault} :
    IsFirstReason text reason ↔
      reasons.find? (fun reason => decide (Applies text reason)) = some reason := by
  rw [List.find?_eq_some_iff_append]
  constructor
  · rintro ⟨earlier, later, split, applies, none⟩
    exact ⟨decide_eq_true applies, earlier, later, split, by simpa using none⟩
  · rintro ⟨applies, earlier, later, split, none⟩
    exact ⟨earlier, later, split, of_decide_eq_true applies, by simpa using none⟩

section Searches

variable {behind : List Char}

theorem eq_append_iff (started : Text.afterStart? start.toList text = some behind)
    {other : List Char} : text = start.toList ++ other ↔ behind = other := by
  rw [Text.afterStart?_eq_some_iff.mp started, List.append_cancel_left_eq]

theorem applies_missingPort_iff (started : Text.afterStart? start.toList text = some behind) :
    Applies text .missingPort ↔ Text.upTo? [':'] behind = none := by
  simp only [Applies, eq_append_iff started]
  rw [exists_eq_left', Text.upTo?_eq_none_iff, ← Text.isFirst_cons_iff List.not_mem_nil,
    Text.isFirst_singleton_iff]

theorem sides_iff (started : Text.afterStart? start.toList text = some behind)
    (host after : List Char) :
    text = start.toList ++ host ++ ':' :: after ∧ ':' ∉ host ↔
      Text.upTo? [':'] behind = some (host, after) := by
  rw [List.append_assoc, eq_append_iff started, Text.upTo?_eq_some_iff (List.cons_ne_nil ':' []),
    Text.isFirst_singleton_iff, List.append_assoc, List.singleton_append]

theorem applies_missingService_iff (started : Text.afterStart? start.toList text = some behind) :
    Applies text .missingService ↔ ∃ host after, Text.upTo? [':'] behind = some (host, after) ∧
      Text.upTo? servicePath.toList after = none := by
  simp only [Applies, ← and_assoc, sides_iff started, Text.upTo?_eq_none_iff]

theorem applies_emptyHost_iff (started : Text.afterStart? start.toList text = some behind) :
    Applies text .emptyHost ↔ ∃ after, Text.upTo? [':'] behind = some ([], after) := by
  simp only [Applies, ← sides_iff started, List.append_nil, List.not_mem_nil, not_false_eq_true,
    and_true]

theorem applies_emptyPort_iff (started : Text.afterStart? start.toList text = some behind) :
    Applies text .emptyPort ↔ ∃ host after rest, Text.upTo? [':'] behind = some (host, after) ∧
      Text.upTo? servicePath.toList after = some ([], rest) := by
  have path : servicePath.toList ≠ [] := by decide
  have begins (after rest : List Char) :
      Text.upTo? servicePath.toList after = some ([], rest) ↔
        after = servicePath.toList ++ rest := by
    rw [Text.upTo?_eq_some_iff path, isFirst_servicePath_iff, List.infix_nil]
    exact and_iff_left path
  simp only [Applies, sides_iff started, begins]
  constructor
  · rintro ⟨host, rest, found⟩
    exact ⟨host, _, rest, found, rfl⟩
  · rintro ⟨host, _, rest, found, rfl⟩
    exact ⟨host, rest, found⟩

end Searches

theorem parts?_eq_error_iff {reason : AddressFault} :
    parts? text = .error reason ↔ IsFirstReason text reason := by
  classical
  rw [isFirstReason_iff]
  cases started : Text.afterStart? start.toList text with
  | none =>
      have wrongStart : Applies text .wrongStart := Text.afterStart?_eq_none_iff.mp started
      simp [parts?, started, reasons, wrongStart]
  | some behind =>
      have begins : ¬ Applies text .wrongStart :=
        not_not_intro ⟨behind, (Text.afterStart?_eq_some_iff.mp started).symm⟩
      have missingPort := applies_missingPort_iff started
      have missingService := applies_missingService_iff started
      have emptyHost := applies_emptyHost_iff started
      have emptyPort := applies_emptyPort_iff started
      cases found : Text.upTo? [':'] behind with
      | none => simp [parts?, started, found, reasons, begins, missingPort]
      | some sides =>
          obtain ⟨host, after⟩ := sides
          cases ended : Text.upTo? servicePath.toList after with
          | none => simp [parts?, started, found, ended, reasons, begins, missingPort, missingService]
          | some parts =>
              obtain ⟨port, rest⟩ := parts
              by_cases noHost : host = []
              · simp [parts?, started, found, ended, noHost, reasons, begins, missingPort,
                  missingService, emptyHost]
              · simp [parts?, started, found, ended, noHost, reasons, begins, missingPort,
                  missingService, emptyHost, emptyPort]
                by_cases noPort : port = []
                · simp [noPort]
                · simp [noPort]

theorem Divides.unique {host' port' rest' : List Char} (divides : Divides text host port rest)
    (others : Divides text host' port' rest') : host' = host ∧ port' = port ∧ rest' = rest := by
  have same := (divides_iff.mp others).symm.trans (divides_iff.mp divides)
  cases same
  exact ⟨rfl, rfl, rfl⟩

section AddressOf

variable {given : String} {credentials : Credentials}

theorem addressOf_eq_ok_iff {address : Address} :
    Session.addressOf given credentials = .ok address ↔
      ofText? given credentials = .ok address := by
  unfold Session.addressOf
  cases ofText? given credentials with
  | error reason => simp
  | ok address => simp

theorem addressOf_eq_error_iff {fault : Fault} :
    Session.addressOf given credentials = .error fault ↔
      ∃ reason, fault = .malformedAddress given reason ∧ IsFirstReason given.toList reason := by
  simp only [← parts?_eq_error_iff]
  unfold Session.addressOf ofText?
  cases parts? given.toList with
  | error reason => simp [eq_comm]
  | ok parts => simp

theorem accepts_eq_false_iff :
    accepts given = false ↔ IsFirstReason given.toList .wrongStart := by
  rw [accepts, ← Bool.not_eq_true, List.isPrefixOf_iff_prefix]
  constructor
  · intro foreign
    rw [← parts?_eq_error_iff, parts?, Text.afterStart?_eq_none_iff.mpr foreign]
  · rintro ⟨_, _, _, foreign, _⟩
    exact foreign

end AddressOf

/-- A text is an address exactly if it can be divided into the parts of one, and then in one way
only. Any other text is refused for the first reason there is. The texts that are not accepted are
those refused for their beginning; and cutting the parts out of the bytes of a text goes well,
whatever the text. -/
theorem addressOf_divided (text : String) (credentials : Credentials) :
    ((∃ address, Session.addressOf text credentials = .ok address) ↔
      ∃ host port rest, Divides text.toList host port rest) ∧
    (∀ host port rest, Divides text.toList host port rest →
      (∀ host' port' rest', Divides text.toList host' port' rest' →
        host' = host ∧ port' = port ∧ rest' = rest) ∧
      ∃ address, Session.addressOf text credentials = .ok address ∧
        address.host = .ofList host ∧ address.port = .ofList port) ∧
    (∀ fault, Session.addressOf text credentials = .error fault ↔
      ∃ reason, fault = .malformedAddress text reason ∧ IsFirstReason text.toList reason) ∧
    (accepts text = false ↔
      Session.addressOf text credentials = .error (.malformedAddress text .wrongStart)) ∧
    slices? (Text.Utf8.encode text.toList) = some ((parts? text.toList).map fun parts =>
      ⟨Text.Utf8.encode parts.1, Text.Utf8.encode parts.2.1,
        (query? parts.2.2).map Text.Utf8.encode⟩) := by
  refine ⟨?_, ?_, fun fault => addressOf_eq_error_iff, ?_, slices?_encode text.toList⟩
  · simp only [addressOf_eq_ok_iff, ofText?_eq_ok_iff, ← divides_iff]
    constructor
    · rintro ⟨_, host, port, rest, divides, -⟩
      exact ⟨host, port, rest, divides⟩
    · rintro ⟨host, port, rest, divides⟩
      exact ⟨_, host, port, rest, divides, rfl⟩
  · intro host port rest divides
    refine ⟨fun _ _ _ others => divides.unique others, ?_⟩
    refine ⟨assembled text host port (foundArguments rest) credentials, ?_, rfl, rfl⟩
    rw [addressOf_eq_ok_iff, ofText?_eq_ok_iff]
    exact ⟨host, port, rest, divides_iff.mp divides, rfl⟩
  · rw [accepts_eq_false_iff, addressOf_eq_error_iff]
    constructor
    · exact fun first => ⟨.wrongStart, rfl, first⟩
    · rintro ⟨_, same, first⟩
      cases same
      exact first

end Address

end VirtualTables
