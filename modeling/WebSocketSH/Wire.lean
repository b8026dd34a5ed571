import WebSocketSH.Endpoint.State

/-! A concrete encoding, standing in for the JSON encoding outside the repository: every
frame is a tag character followed by its fields, each character of a field escaped by `+`
and each field closed by `;`. It refuses no value, and its decoder recovers every message
its encoders write. -/
namespace WebSocketSH
namespace Wire

/-- One field: every character after a `+`, then `;`. -/
def field (s : String) : List Char :=
  s.data.flatMap (fun c => ['+', c]) ++ [';']

def readField : List Char → Option (List Char × List Char)
  | '+' :: c :: rest => (readField rest).map fun (s, r) => (c :: s, r)
  | ';' :: rest => some ([], rest)
  | _ => none

theorem readField_field (s : String) (rest : List Char) :
    readField (field s ++ rest) = some (s.data, rest) := by
  obtain ⟨cs⟩ := s
  induction cs with
  | nil => rfl
  | cons c cs ih =>
    simp only [field, List.flatMap_cons, List.cons_append, List.nil_append, List.append_assoc]
      at ih ⊢
    simp [readField, ih]

/-- Reads `count` fields that fill the rest of the frame. -/
def readFields : Nat → List Char → Option (List String)
  | 0, [] => some []
  | 0, _ :: _ => none
  | count + 1, cs => (readField cs).bind fun (s, rest) =>
      (readFields count rest).map (String.mk s :: ·)

theorem readFields_fields (fields : List String) :
    readFields fields.length (fields.flatMap field) = some fields := by
  induction fields with
  | nil => rfl
  | cons f fs ih => simp [readFields, readField_field, ih]

def frame (tag : Char) (fields : List String) : String :=
  ⟨tag :: fields.flatMap field⟩

/-- How many fields follow each tag. -/
def arity : Char → Nat
  | 'P' => 2
  | _ => 3

/-- The message a tag and its fields stand for. -/
def message : Char → List String → Option Message
  | 'A', [topic, type, id] => some (.advertise topic type id)
  | 'P', [topic, json] => some (.publish topic ⟨json⟩)
  | 'S', [topic, type, id] => some (.subscribe topic (some type) id)
  | 'V', [service, reqType, replyType] => some (.advertiseService service reqType replyType)
  | 'C', [service, json, id] => some (.callService service ⟨json⟩ id)
  | 'R', [service, json, id] => some (.serviceResponse service ⟨json⟩ id)
  | _, _ => none

def decode (payload : String) : Option Message :=
  match payload.data with
  | [] => none
  | tag :: rest => (readFields (arity tag) rest).bind (message tag)

theorem decode_frame {tag : Char} {fields : List String} (counted : fields.length = arity tag) :
    decode (frame tag fields) = message tag fields := by
  simp [decode, frame, ← counted, readFields_fields]

theorem frame_ne_empty (tag : Char) (fields : List String) : frame tag fields ≠ "" := by
  simp [frame, String.ext_iff]

end Wire

/-- The wire encoding; `convert` accepts every value. -/
def Encoding.escaped : Encoding where
  encodeAdvertiseMsg topic type id _ := Wire.frame 'A' [topic, type, id]
  encodePublicationMsg topic _ _ data := Wire.frame 'P' [topic, data.json]
  encodeSubscribeMsg topic type id _ := Wire.frame 'S' [topic, type, id]
  encodeAdvertiseServiceMsg service reqType replyType _ _ :=
    Wire.frame 'V' [service, reqType, replyType]
  encodeCallServiceMsg service _ request id _ := Wire.frame 'C' [service, request.json, id]
  encodeServiceResponseMsg service _ id response _ := Wire.frame 'R' [service, response.json, id]
  interpretWebsocketMsg := Wire.decode
  convert data := some data.json

end WebSocketSH
