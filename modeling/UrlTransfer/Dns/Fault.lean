/-
# Faults of the name service

Why a lookup has no result.  A name server that knows nothing may name the authority of the zone,
which is kept with the query and the code of the response.
-/
import UrlTransfer.Dns.Record

namespace UrlTransfer

namespace Dns

/-- Why a lookup has no result. -/
inductive DnsError where
  /-- The name exists, but has no records of the type. -/
  | noData
  /-- A name server has no records, with this code; it may have named the authority. -/
  | noRecords (query : Query) (authority : Option Record) (code : ResponseCode)
  | invalidName (name : String)
  | timedOut
  /-- A name takes more bytes than a message has for it. -/
  | nameTooLong (length : Nat)
deriving DecidableEq

/-- What lies behind a fault. -/
def DnsError.causes : DnsError → List String
  | nameTooLong length => ["name label data exceed 255: " ++ Numeral.decimal length]
  | _ => []

/-- The wording of a fault. -/
def DnsError.message : DnsError → String
  | noData => "no data"
  | noRecords query _ code => "no records for " ++ query.text ++ " (" ++ code.text ++ ")"
  | invalidName name => "invalid domain name '" ++ name ++ "'"
  | timedOut => "DNS query timed out"
  | nameTooLong length => ": ".intercalate ("DNS protocol error" :: (nameTooLong length).causes)

/-- The name of a fault. -/
def DnsError.name : DnsError → String
  | noData => "no-data"
  | noRecords _ _ _ => "no-records"
  | invalidName _ => "invalid-name"
  | timedOut => "timed-out"
  | nameTooLong _ => "proto"

end Dns

end UrlTransfer
