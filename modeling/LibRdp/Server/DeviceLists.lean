import LibRdp.Server.DeviceHandshake

/-! # Announced lists of devices

The devices of a list are stored one by one. A list that fails at a later device therefore
leaves the earlier ones in the registry; only a list whose first supported device fails
already leaves nothing.
-/

namespace LibRdp.Server

open Machine Machine.Table Channels

section Lists

variable {charset : Charset} {peer : RedirectionPeer}

variable {announce : DeviceAnnounce} {list : List DeviceAnnounce}

variable {drive : DrivePeer} {channelId : UInt16} {data : Bytes}

end Lists

end LibRdp.Server
