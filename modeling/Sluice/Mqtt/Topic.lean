import Sluice.Broker.Basic

/-! # Topics that can be published to -/

namespace Sluice.Mqtt

def maxTopicLength : Nat := 65535

/-- Whether a character may not stand in a topic that is published to. -/
def isForbidden (c : Char) : Bool := c = '\x00' || c = '#' || c = '+'

/-- Check that a topic can be published to; its length is looked at first. -/
def checkTopic (topic : String) : Except BrokerError Unit :=
  if topic.utf8ByteSize = 0 ∨ topic.utf8ByteSize > maxTopicLength then
    .error (.invalidDestination topic .length)
  else if topic.toList.any isForbidden then .error (.invalidDestination topic .character)
  else .ok ()

end Sluice.Mqtt
