import RailwayBooking.Concurrency.Rules
import RailwayBooking.Contracts

namespace RailwayBooking.Kafka

open Concurrency

/-- What a consumer needs of its service to route messages. -/
structure Consumer (V : Service) where
  isNonRetryable : V.Err → Bool
  parseError : V.Err
  heartbeat : Code V Unit
  sendToDlq : Code V Unit

variable {V : Service} {E : Type} (K : Consumer V)

/-- Errors that a retry cannot cure send the message to the dead-letter topic;
all others are passed on, so that the message is delivered again. -/
def wrapWithDlq (handler : Message E → Code V Unit) (m : Message E) : Code V Unit :=
  (handler m).attempt (fun err =>
    if !K.isNonRetryable err then Program.raise err else K.sendToDlq)

def jsonProcessor (process : E → Code V Unit) : Message E → Code V Unit
  | .tombstone => pure ()
  | .malformed => Program.ensure (.raise K.parseError) K.heartbeat
  | .event e => Program.ensure (process e) K.heartbeat

def createDlqConsumerHandler (process : E → Code V Unit) (m : Message E) : Code V Unit :=
  wrapWithDlq K (jsonProcessor K process) m

end RailwayBooking.Kafka
