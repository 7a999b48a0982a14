/-!
# Status codes

What a gateway says in the status octet of a response or an acknowledgement.
-/

namespace KnxIp

/-- The name of a status code. -/
def statusName (status : UInt8) : String :=
  match status.toNat with
  | 0x00 => "E_NO_ERROR"
  | 0x04 => "E_SEQUENCE_NUMBER"
  | 0x21 => "E_CONNECTION_ID"
  | 0x22 => "E_CONNECTION_TYPE"
  | 0x23 => "E_CONNECTION_OPTION"
  | 0x24 => "E_NO_MORE_CONNECTIONS"
  | 0x26 => "E_DATA_CONNECTION"
  | 0x27 => "E_KNX_CONNECTION"
  | 0x29 => "E_TUNNELLING_LAYER"
  | _ => "E_UNKNOWN"

end KnxIp
