/-
Canonical decompositions, one step each: `D` into two characters that compose again,
`E` into two that do not, `S` into a single one. Syllables of Hangul are left out.
-/
import GuidedLogin.Unicode.Table

namespace GuidedLogin.Unicode

def decompositions : Table := Table.ofText "5cD1t.lc 1D1t.ld 1D1t.le 1D1t.lf 1D1t.lk 1D1t.lm 2D1v.mf 1D1x.lc 1D1x.ld 1D1x.le 1D1x.lk 1D21.lc
1D21.ld 1D21.le 1D21.lk 2D26.lf 1D27.lc 1D27.ld 1D27.le 1D27.lf 1D27.lk 3D2d.lc 1D2d.ld 1D2d.le
1D2d.lk 1D2h.ld 3D2p.lc 1D2p.ld 1D2p.le 1D2p.lf 1D2p.lk 1D2p.lm 2D2r.mf 1D2t.lc 1D2t.ld 1D2t.le
1D2t.lk 1D2x.lc 1D2x.ld 1D2x.le 1D2x.lk 2D32.lf 1D33.lc 1D33.ld 1D33.le 1D33.lf 1D33.lk 3D39.lc
1D39.ld 1D39.le 1D39.lk 1D3d.ld 2D3d.lk 1D1t.lg 1D2p.lg 1D1t.li 1D2p.li 1D1t.mg 1D2p.mg 1D1v.ld
1D2r.ld 1D1v.le 1D2r.le 1D1v.lj 1D2r.lj 1D1v.lo 1D2r.lo 1D1w.lo 1D2s.lo 3D1x.lg 1D2t.lg 1D1x.li
1D2t.li 1D1x.lj 1D2t.lj 1D1x.mg 1D2t.mg 1D1x.lo 1D2t.lo 1D1z.le 1D2v.le 1D1z.li 1D2v.li 1D1z.lj
1D2v.lj 1D1z.mf 1D2v.mf 1D20.le 1D2w.le 3D21.lf 1D2x.lf 1D21.lg 1D2x.lg 1D21.li 1D2x.li 1D21.mg
1D2x.mg 1D21.lj 4D22.le 1D2y.le 1D23.mf 1D2z.mf 2D24.ld 1D30.ld 1D24.mf 1D30.mf 1D24.lo 1D30.lo
5D26.ld 1D32.ld 1D26.mf 1D32.mf 1D26.lo 1D32.lo 4D27.lg 1D33.lg 1D27.li 1D33.li 1D27.ln 1D33.ln
3D2a.ld 1D36.ld 1D2a.mf 1D36.mf 1D2a.lo 1D36.lo 1D2b.ld 1D37.ld 1D2b.le 1D37.le 1D2b.mf 1D37.mf
1D2b.lo 1D37.lo 1D2c.mf 1D38.mf 1D2c.lo 1D38.lo 3D2d.lf 1D39.lf 1D2d.lg 1D39.lg 1D2d.li 1D39.li
1D2d.lm 1D39.lm 1D2d.ln 1D39.ln 1D2d.mg 1D39.mg 1D2f.le 1D3b.le 1D2h.le 1D3d.le 1D2h.lk 1D2i.ld
1D3e.ld 1D2i.lj 1D3e.lj 1D2i.lo 1D3e.lo yD27.m3 1D33.m3 eD2d.m3 1D39.m3 tD1t.lo 1D2p.lo 1D21.lo
1D2x.lo 1D27.lo 1D33.lo 1D2d.lo 1D39.lo 1D64.lg 1D70.lg 1D64.ld 1D70.ld 1D64.lo 1D70.lo 1D64.lc
1D70.lc 2D5g.lg 1D6c.lg 1Dfa.lg 1Dfb.lg 1D5i.lg 1D6e.lg 3D1z.lo 1D2v.lo 1D23.lo 1D2z.lo 1D27.mg
1D33.mg 1Ddm.lg 1Ddn.lg 1Dc7.lo 1Dia.lo 1D2y.lo 4D1z.ld 1D2v.ld 3D26.lc 1D32.lc 1D5h.ld 1D6d.ld
1D5i.ld 1D6e.ld 1D60.ld 1D6w.ld 1D1t.lr 1D2p.lr 1D1t.lt 1D2p.lt 1D1x.lr 1D2t.lr 1D1x.lt 1D2t.lt
1D21.lr 1D2x.lr 1D21.lt 1D2x.lt 1D27.lr 1D33.lr 1D27.lt 1D33.lt 1D2a.lr 1D36.lr 1D2a.lt 1D36.lt
1D2d.lr 1D39.lr 1D2d.lt 1D39.lt 1D2b.me 1D37.me 1D2c.me 1D38.me 3D20.lo 1D2w.lo 7D1t.lj 1D2p.lj
1D1x.mf 1D2t.mf 1D5y.lg 1D6u.lg 1D5x.lg 1D6t.lg 1D27.lj 1D33.lj 1Dfi.lg 1Dfj.lg 1D2h.lg 1D3d.lg
7hSlc 1Sld 2Slv 1Elk.ld 1cSjd aS1n 7D4o.ld 1Dpd.ld 1S53 1Dph.ld 1Dpj.ld 1Dpl.ld 2Dpr.ld 2Dpx.ld
1Dq1.ld 1Dqy.ld qDpl.lk 1Dpx.lk 1Dq9.ld 1Dqd.ld 1Dqf.ld 1Dqh.ld 1Dqz.ld qDqh.lk 1Dqt.lk 1Dqn.ld
1Dqt.ld 1Dqx.ld 5Dr6.ld 1Dr6.lk 18Dt1.lc 1Dt1.lk 2Dsz.ld 4Dsm.lk 5Dt6.ld 1Dt4.lc 1Dtf.li bDt4.li
wDu0.li nDtx.lc 1Dtx.lk 2Dtv.ld 4Duu.lk 5Du2.ld 1Du0.lc 1Dub.li oDvo.lr 1Dvp.lr 22Dt2.li 1Dty.li
eDsw.li 1Dts.li 1Dsw.lk 1Dts.lk 3Dt1.li 1Dtx.li 3Dyg.lk 1Dyh.lk 1Dt2.lk 1Dty.lk 1Dt3.lk 1Dtz.lk
3Dt4.lg 1Du0.lg 1Dt4.lk 1Du0.lk 1Dta.lk 1Du6.lk 3Dyw.lk 1Dyx.lk 1Dtp.lk 1Dul.lk 1Dtf.lg 1Dub.lg
1Dtf.lk 1Dub.lk 1Dtf.ln 1Dub.ln 1Dtj.lk 1Duf.lk 3Dtn.lk 1Duj.lk 89D17r.18z 1D17r.190 1D18o.190
1D17r.191 1D18q.190 4aD1cl.190 2D1c1.190 hD1ci.190 gmD1t4.1to 8D1tc.1to 3D1tf.1to 10E1sl.1to
1E1sm.1to 1E1sn.1to 1E1ss.1to 1E1sx.1to 1E1sy.1to 1E1t7.1to 1E1tb.1to 30D1xj.1xa 1D1xj.1xz
gE1wh.1x8 1E1wi.1x8 2E1wv.1x8 2cE20i.20s 3E20o.20s zE1zq.20s 1E1zr.20s 1E1zw.20s 3E20b.20s
6iD287.28m 3D287.27y 1D287.28n gE275.27w 1E276.27w 1jD2aa.2c7 1iD2bq.2bi 1D2br.2bi 1D2bq.2c7
3gD2fa.2fq 3cD2in.2j9 7D2iu.2j9 1D2iu.2ja 2D2iu.2iq 1D2iy.2j9 3jD2me.2m6 1D2mf.2m6 1D2me.2mv
3yD2qh.2q2 2D2qh.2q7 1D2qk.2q2 1D2qh.2qn 9xE30i.33r aE30s.33r 5E30x.33r 5E312.33r 5E317.33r
dE30g.33p aE31t.31u 2E31t.31w 1E33m.328 2E33n.328 9E31t.328 iE32q.33r aE330.33r 5E335.33r
5E33a.33r 5E33f.33r dE32o.33p 31D36t.372 25cD5c5.5dh 2D5c7.5dh 2D5c9.5dh 2D5cb.5dh 2D5cd.5dh
4D5ch.5dh 15D5dm.5dh 2D5do.5dh 3D5dq.5dh 1D5dr.5dh 2D5du.5dh jhD1t.md 1D2p.md 1D1u.lj 1D2q.lj
1D1u.mb 1D2q.mb 1D1u.mp 1D2q.mp 1D5j.ld 1D6f.ld 1D1w.lj 1D2s.lj 1D1w.mb 1D2s.mb 1D1w.mp 1D2s.mp
1D1w.mf 1D2s.mf 1D1w.ml 1D2s.ml 1D7m.lc 1D7n.lc 1D7m.ld 1D7n.ld 1D1x.ml 1D2t.ml 1D1x.mo 1D2t.mo
1Dfc.li 1Dfd.li 1D1y.lj 1D2u.lj 1D1z.lg 1D2v.lg 1D20.lj 1D2w.lj 1D20.mb 1D2w.mb 1D20.lk 1D2w.lk
1D20.mf 1D2w.mf 1D20.mm 1D2w.mm 1D21.mo 1D2x.mo 1D5r.ld 1D6n.ld 1D23.ld 1D2z.ld 1D23.mb 1D2z.mb
1D23.mp 1D2z.mp 1D24.mb 1D30.mb 1D5yu.lg 1D5yv.lg 1D24.mp 1D30.mp 1D24.ml 1D30.ml 1D25.ld
1D31.ld 1D25.lj 1D31.lj 1D25.mb 1D31.mb 1D26.lj 1D32.lj 1D26.mb 1D32.mb 1D26.mp 1D32.mp 1D26.ml
1D32.ml 1D5x.ld 1D6t.ld 1D5x.lk 1D6t.lk 1D98.lc 1D99.lc 1D98.ld 1D99.ld 1D28.ld 1D34.ld 1D28.lj
1D34.lj 1D2a.lj 1D36.lj 1D2a.mb 1D36.mb 1D5zu.lg 1D5zv.lg 1D2a.mp 1D36.mp 1D2b.lj 1D37.lj
1D2b.mb 1D37.mb 1D9m.lj 1D9n.lj 1D9s.lj 1D9t.lj 1D602.lj 1D603.lj 1D2c.lj 1D38.lj 1D2c.mb
1D38.mb 1D2c.mp 1D38.mp 1D2c.ml 1D38.ml 1D2d.mc 1D39.mc 1D2d.mo 1D39.mo 1D2d.ml 1D39.ml 1Da0.ld
1Da1.ld 1Da2.lk 1Da3.lk 1D2e.lf 1D3a.lf 1D2e.mb 1D3a.mb 1D2f.lc 1D3b.lc 1D2f.ld 1D3b.ld 1D2f.lk
1D3b.lk 1D2f.lj 1D3b.lj 1D2f.mb 1D3b.mb 1D2g.lj 1D3c.lj 1D2g.lk 1D3c.lk 1D2h.lj 1D3d.lj 1D2i.le
1D3e.le 1D2i.mb 1D3e.mb 1D2i.mp 1D3e.mp 1D2w.mp 1D38.lk 1D3b.lm 1D3d.lm 2Dan.lj 5D1t.mb 1D2p.mb
1D1t.ll 1D2p.ll 1D5e.ld 1D6a.ld 1D5e.lc 1D6a.lc 1D5e.ll 1D6a.ll 1D5e.lf 1D6a.lf 1D61s.le
1D61t.le 1D76.ld 1D77.ld 1D76.lc 1D77.lc 1D76.ll 1D77.ll 1D76.lf 1D77.lf 1D61s.li 1D61t.li
1D1x.mb 1D2t.mb 1D1x.ll 1D2t.ll 1D1x.lf 1D2t.lf 1D5m.ld 1D6i.ld 1D5m.lc 1D6i.lc 1D5m.ll 1D6i.ll
1D5m.lf 1D6i.lf 1D62g.le 1D62h.le 1D21.ll 1D2x.ll 1D21.mb 1D2x.mb 1D27.mb 1D33.mb 1D27.ll
1D33.ll 1D5w.ld 1D6s.ld 1D5w.lc 1D6s.lc 1D5w.ll 1D6s.ll 1D5w.lf 1D6s.lf 1D630.le 1D631.le
1Dbk.ld 1Dbl.ld 1Dbk.lc 1Dbl.lc 1Dbk.ll 1Dbl.ll 1Dbk.lf 1Dbl.lf 1Dbk.mb 1Dbl.mb 1D2d.mb 1D39.mb
1D2d.ll 1D39.ll 1Dbz.ld 1Dc0.ld 1Dbz.lc 1Dc0.lc 1Dbz.ll 1Dc0.ll 1Dbz.lf 1Dc0.lf 1Dbz.mb 1Dc0.mb
1D2h.lc 1D3d.lc 1D2h.mb 1D3d.mb 1D2h.ll 1D3d.ll 1D2h.lf 1D3d.lf 7Dq9.lv 1Dq9.lw 1D64g.lc
1D64h.lc 1D64g.ld 1D64h.ld 1D64g.n6 1D64h.n6 1Dpd.lv 1Dpd.lw 1D64o.lc 1D64p.lc 1D64o.ld 1D64p.ld
1D64o.n6 1D64p.n6 1Dqd.lv 1Dqd.lw 1D64w.lc 1D64x.lc 1D64w.ld 1D64x.ld 3Dph.lv 1Dph.lw 1D654.lc
1D655.lc 1D654.ld 1D655.ld 3Dqf.lv 1Dqf.lw 1D65c.lc 1D65d.lc 1D65c.ld 1D65d.ld 1D65c.n6 1D65d.n6
1Dpj.lv 1Dpj.lw 1D65k.lc 1D65l.lc 1D65k.ld 1D65l.ld 1D65k.n6 1D65l.n6 1Dqh.lv 1Dqh.lw 1D65s.lc
1D65t.lc 1D65s.ld 1D65t.ld 1D65s.n6 1D65t.n6 1Dpl.lv 1Dpl.lw 1D660.lc 1D661.lc 1D660.ld 1D661.ld
1D660.n6 1D661.n6 1Dqn.lv 1Dqn.lw 1D668.lc 1D669.lc 1D668.ld 1D669.ld 3Dpr.lv 1Dpr.lw 1D66g.lc
1D66h.lc 1D66g.ld 1D66h.ld 3Dqt.lv 1Dqt.lw 1D66o.lc 1D66p.lc 1D66o.ld 1D66p.ld 1D66o.n6 1D66p.n6
2Dpx.lw 2D66x.lc 2D66x.ld 2D66x.n6 1Dqx.lv 1Dqx.lw 1D674.lc 1D675.lc 1D674.ld 1D675.ld 1D674.n6
1D675.n6 1Dq1.lv 1Dq1.lw 1D67c.lc 1D67d.lc 1D67c.ld 1D67d.ld 1D67c.n6 1D67d.n6 1Dq9.lc 1Sq4
1Dqd.lc 1Sq5 1Dqf.lc 1Sq6 1Dqh.lc 1Sq7 1Dqn.lc 1Sr0 1Dqt.lc 1Sr1 1Dqx.lc 1Sr2 3D64g.n9 1D64h.n9
1D64i.n9 1D64j.n9 1D64k.n9 1D64l.n9 1D64m.n9 1D64n.n9 1D64o.n9 1D64p.n9 1D64q.n9 1D64r.n9
1D64s.n9 1D64t.n9 1D64u.n9 1D64v.n9 1D65c.n9 1D65d.n9 1D65e.n9 1D65f.n9 1D65g.n9 1D65h.n9
1D65i.n9 1D65j.n9 1D65k.n9 1D65l.n9 1D65m.n9 1D65n.n9 1D65o.n9 1D65p.n9 1D65q.n9 1D65r.n9
1D674.n9 1D675.n9 1D676.n9 1D677.n9 1D678.n9 1D679.n9 1D67a.n9 1D67b.n9 1D67c.n9 1D67d.n9
1D67e.n9 1D67f.n9 1D67g.n9 1D67h.n9 1D67i.n9 1D67j.n9 1Dq9.li 1Dq9.lg 1D67k.n9 1Dq9.n9 1Dq4.n9
2Dq9.n6 1D69i.n9 1Dpd.li 1Dpd.lg 1Dpd.lc 1Sp2 1Dpd.n9 2Sqh 3D4o.n6 1D67o.n9 1Dqf.n9 1Dq6.n9
2Dqf.n6 1D69y.n9 1Dph.lc 1Sp4 1Dpj.lc 1Sp5 1Dpj.n9 1D69r.lc 1D69r.ld 1D69r.n6 1Dqh.li 1Dqh.lg
1Dqy.lc 1Spc 3Dqh.n6 1Dqy.n6 1Dpl.li 1Dpl.lg 1Dpl.lc 1Sp6 2D6bi.lc 1D6bi.ld 1D6bi.n6 1Dqt.li
1Dqt.lg 1Dqz.lc 1Sq8 1Dqp.lv 1Dqp.lw 1Dqt.n6 1Dqz.n6 1Dpx.li 1Dpx.lg 1Dpx.lc 1Spa 1Dpt.lw
1D4o.lc 1Sp1 1S2o 3D67w.n9 1Dqx.n9 1Dr2.n9 2Dqx.n6 1D6ba.n9 1Dpr.lc 1Sp8 1Dq1.lc 1Spb 1Dq1.n9
1S50 3S6bm 1S6bn 85Sq1 4S23 1S5h 33D6mo.mw 1D6mq.mw jD6ms.mw vD6og.mw 1D6ok.mw 1D6oi.mw
1hD6pv.mw 5D6q0.mw 3D6q3.mw oD6qr.mw 2D6qt.mw rD6rg.mw 3D6rn.mw 3D6rp.mw 2D6rs.mw nD1p.mw
2D6sh.mw bD6rx.mw 1D1o.mw 1D1q.mw 1D6sk.mw 1D6sl.mw 3D6sy.mw 1D6sz.mw 3D6t2.mw 1D6t3.mw 7D6t6.mw
1D6t7.mw 3D6te.mw 1D6tf.mw 3D6ti.mw 1D6tj.mw zD6ua.mw 1D6ug.mw 1D6uh.mw 1D6uj.mw 1dD6t8.mw
1D6t9.mw 1D6tt.mw 1D6tu.mw 7D6uq.mw 1D6ur.mw 1D6us.mw 1D6ut.mw 1oS9hk 1S9hl 1iqE8gt.mw
12oD9jf.9ll 2D9jh.9ll 2D9jj.9ll 2D9jl.9ll 2D9jn.9ll 2D9jp.9ll 2D9jr.9ll 2D9jt.9ll 2D9jv.9ll
2D9jx.9ll 2D9jz.9ll 2D9k1.9ll 3D9k4.9ll 2D9k6.9ll 2D9k8.9ll 7D9kf.9ll 1D9kf.9lm 2D9ki.9ll
1D9ki.9lm 2D9kl.9ll 1D9kl.9lm 2D9ko.9ll 1D9ko.9lm 2D9kr.9ll 1D9kr.9lm nD9ja.9ll aD9lp.9ll
eD9m3.9ll 2D9m5.9ll 2D9m7.9ll 2D9m9.9ll 2D9mb.9ll 2D9md.9ll 2D9mf.9ll 2D9mh.9ll 2D9mj.9ll
2D9ml.9ll 2D9mn.9ll 2D9mp.9ll 3D9ms.9ll 2D9mu.9ll 2D9mw.9ll 7D9n3.9ll 1D9n3.9lm 2D9n6.9ll
1D9n6.9lm 2D9n9.9ll 1D9n9.9lm 2D9nc.9ll 1D9nc.9lm 2D9nf.9ll 1D9nf.9lm nD9ly.9ll 3D9nz.9ll
1D9o0.9ll 1D9o1.9ll 1D9o2.9ll 4D9od.9ll 13iaSrpk 1Skc4 1Ss7e 1Srt4 1Slw1 1Sfg2 1Sgkl 1Svj0 1Svj0
1Shn5 1Sssx 1Sgw7 1Shmw 1Sjcm 1Sne1 1Sp6t 1Sqin 1Sqt6 1Sr20 1Ssjz 1Skxu 1Sljv 1Smah 1Smvy 1Sq4d
1Ssq2 1Suep 1Sfia 1Sghh 1Sl50 1Smjf 1Sqi5 1Sv8e 1Sifk 1Sm3v 1Sqfh 1Sr50 1Sjih 1Spnc 1Sqvz 1Siq2
1Skd3 1Slm2 1Smpo 1Sslq 1Sfpi 1Sg53 1Sgda 1Sjwk 1Sl3n 1Smj4 1Snhj 1Spa9 1Sqh2 1Sqjg 1Ss1b 1Stv6
1Supb 1Sv7e 1Snt8 1Snzz 1Sotc 1Sq15 1St1g 1Svb3 1Srfa 1Shjz 1Siro 1Sokg 1Spdq 1Smle 1Snuy 1Srsy
1Sttj 1Shjs 1Si8y 1Skyb 1Slp6 1Slxr 1Soq7 1Soxj 1Stor 1Sgcy 1Spe3 1Sg64 1Sg5o 1So4c 1Sou6 1Sq29
1Stpx 1Srk0 1Sjin 1Skxu 1Srge 1Sfg9 1Si5j 1Siz6 1Smtj 1Sn74 1Sgev 1Snwb 1Sfr3 1Siw9 1Sff1 1Slho
1Sk1k 1Sopu 1Sgjn 1Shge 1Sni9 1Sq4p 1Sre2 1Sla2 1Ssds 1Slfs 1Sjjy 1Sput 1Sjog 1Sn6t 1Sfji 1Sg2x
1Sg5l 1Skn5 1Soo7 1Sprj 1Srf6 1Sssv 1Sgdx 1Sgn6 1Sho3 1Sir0 1Sk3p 1Sm4e 1Snxm 1Stkd 1Sui2 1Svbr
1Svda 1Sgbf 1Skau 1Sl87 1Ssbm 1Sino 1Sj9s 1Sjcw 1Sjve 1Slyb 1Smdl 1Sn0p 1So22 1Sovo 1Spdb 1Ss9y
1Sq9a 1Ssgz 1St3e 1Sg7r 1Sgbn 1Sgql 1Sma0 1Sr0i 1Sre2 1Siq1 1Siyd 1Sjnf 1Sl9q 1Soji 1Smt1 1Sfl0
1Sh6h 1Si5j 1Siii 1Sizg 1Smuq 1Smzt 1Sp7e 1Spc6 1Ssvo 1Stti 1Stvs 1Su1k 1Sfpn 1So1a 1Sss4 1Strs
1Sj4x 1Sfie 1Sfyy 1Si5q 1Si7z 1Sk2h 1Skxu 1Smha 1Sncy 1Sq9o 1Ssjg 1Svil 1Sk94 1Stny 1Sgax 1Skfv
1Skj7 1Slkx 1Sluk 1Smx5 1Sn6h 1Snsb 1Sopc 1Su3i 1Sg31 1Sje6 1Stq0 1Sfu3 1Sie1 1Slpm 1Ssa2 1Sivf
1Sj7o 1Skk7 1Smtj 1Stqe 1Sg89 1Sglr 1Si91 1Sk5v 1Skem 1Sko8 1Slid 1Smx2 1Snaa 1Sp6h 1Sr0v 1Sr1d
1Ssss 1Stsy 1Sgfz 1Slve 1Sgm5 1Smhc 1Sn14 1Sqgq 1Str7 1Suvr 1Svbz 1Skgn 1Slor 1Spns 1So97 1Sobk
1Solu 1Smo0 1Sm8p 1Sriw 1Sfk0 1Spx2 1Sg8q 1Sg7b 1Sip2 1Sjir 1Sonq 1Si2t 1Sljy 1Skac 1Ssaj 1Sqx8
1Stot 1Sr63 1Siqb 1Sg1s 1Sgxs 3Shga 2Sk8k 3Sg66 1Smqy 1Sngq 1Sny4 1Snz2 1Snz9 1So0f 1Stw6 1Son2
1Sp8d 2Sqhe 2Srg8 3Sshk 1Ssn1 4Su7j 1Su7w 1Su94 1Sv5g 1Ssm6 1Strr 1Sfqm 1Sfzb 1Sg25 1Sgcp 1Sgdg
1Sggh 1Sgwt 1Sgzq 1Sh2g 1Shfk 1Shig 1Si90 1Si9a 1Sj2s 1Sj8o 1Sj9q 1Sjci 1Sk0f 1Sk4i 1Sk9d 1Skn9
1Slmf 1Slqy 1Slya 1Smem 1Smjv 1Smxu 1Sntd 1Sny6 1Snyh 1Snyg 1Snyo 1Snyu 1Snz1 1So0d 1So0e 1So5c
1So75 1Sog0 1Sovo 1Sow9 1Soxt 1Sp6a 1Spad 1Spnx 1Sprt 1Sprt 1Sq53 1Sr2o 1Sr6e 1Srgh 1Sri1 1Srtf
1Sruw 1Ssdy 1Sshk 1Stsz 1Su0v 1Su2j 1Sj1x 1S36cu 1Spp4 3Sffq 1Sg51 1Sg2w 1Sfpc 1Sg1x 1Sg3k 1Sgcn
1Sge2 1Sgwt 1Sgut 1Sgwp 1Sgyq 1Shga 1Shir 1Shms 1Shn8 1Shuq 1Si08 1Siqa 1Siqh 1Siuh 1Siwd 1Sj4o
1Sj7y 1Sj60 1Sj9q 1Sj8g 1Sjci 1Sjec 1Sjpg 1Sjrw 1Sjte 1Sk0m 1Sk8k 1Skd3 1Skd7 1Skeu 1Sl89 1Sla2
1Slkx 1Slwb 1Slvv 1Slya 1Sm5a 1Smem 1Snmv 1Smk5 1Smnj 1Smqy 1Sn01 1Sn46 1Sn5n 1Snbx 1Snbz 1Sngq
1Snh7 1Snhw 1Snka 1Snk0 1Snv0 1So8h 1Sog0 1Sol7 1Sorf 1Sovo 1Sp4u 1Spad 1Spxu 1Sq27 1Sqrd 1Sr41
1Sr5y 1Sr6e 1Sren 1Srg8 1Srez 1Srgh 1Srge 1Srfx 1Sri1 1Srka 1Sruw 1Ssag 1Ssj6 1Ssrd 1Ssxi 1Stq4
1Stsz 1Stw6 1Stzv 1Su0v 1Su17 1Su2j 1Sumq 1Svj0 1S313e 1S3138 1S33dh 1Sbrx 1Scns 1Scop 1S39e1
1S3bgw 1S3i6r 1Svgj 1Svim 1wE15l.14k 2E16a.14n bE161.14x 1E161.14y 1E1dmx.14x 1E1dmx.14y
1E15c.14n 1E15c.14o 1E15c.14s 1E15d.14s 1E15e.14s 1E15f.14s 1E15g.14s 1E15h.14s 1E15i.14s
2E15k.14s 1E15l.14s 1E15m.14s 1E15n.14s 1E15o.14s 2E15q.14s 2E15s.14s 1E15t.14s 2E15v.14s
1E15w.14s 2E15y.14s 1E15z.14s 1E160.14s 1E161.14s 1E162.14s 1E15h.14p 1E15d.14v 1E15n.14v
1E15w.14v 47gD1huh.1hve 2D1huj.1hve fD1hut.1hve 3nD1hyp.1hyf 1D1hyq.1hyf f0D1idj.1ida
1D1idj.1idz a7D1int.1inu 1D1int.1ink 2D1int.1inx 70D1iuw.1iun 1D1iux.1iun otD1jjp.1jjk
10diE2jx3.2jxh 1E2jx4.2jxh 1E2jxb.2jxq 1E2jxb.2jxr 1E2jxb.2jxs 1E2jxb.2jxt 1E2jxb.2jxu
2fE2jzt.2jxh 1E2jzu.2jxh 1E2jzv.2jxq 1E2jzw.2jxq 1E2jzv.2jxr 1E2jzw.2jxr 1m4gSfgd 1Sfg8 1Sfgh
1S2tcy 1Sfog 1Sfqm 1Sfqz 1Sfsy 1Sfwa 1Sfx5 1Sfzb 1Sfyn 1Sae6 1S2ud6 1Sg25 1Sg2c 1Sg2s 1Sg3b
1S2u58 1Saex 1Sg2v 1Sg3x 1S2u6j 1Sg47 1Sg4k 1Sfkc 1Sg4s 1Sg51 1S3ly7 1Sg6t 1Sg77 1Safz 1Sg8r
1Sg92 1Sgaa 1Sgaf 1Sahh 1Sgcn 1Sgcp 1Sgdg 1Sge2 1Sged 1Sgee 1Sgev 1Sgg9 1Sggh 1Sggq 1Sghf 1Sghp
1Sghr 1Sghr 1Sghr 1S2v58 1Sm7k 1Sgju 1Sgkf 1S2vdv 1Sgkr 1Sgkx 1Sgli 1Sgpq 1Sgmw 1Sgnc 1Sgo8
1Sgpu 1Sgs6 1Sgsw 1Sgur 1Sgv7 1Sgw4 1Sgw4 1Sgwp 1Sgx7 1Sgxf 1Sgxu 1Sh7a 1Sgzq 1Sh7b 1Sh1t 1Sh2s
1Sg7b 1Shke 1Shce 1Shdg 1She5 1Shaj 1Shf6 1Shf5 1Shik 1S2x9g 1Shki 1Shkn 1Shl2 1Shlm 1Shlu 1Shnm
1S2xm0 1S2xnu 1Shrg 1Shsr 1Sht3 1Shqw 1Shuu 1Saum 1Sav0 1Shzc 1Si0u 1Si0u 1S2y88 1Si4j 1Si54
1Si5j 1Si5v 1S2yhk 1Si67 1Si6e 1Sitv 1Si76 1Sayp 1Si8w 1Si9a 1Sibk 1Sia5 1S2z1g 1Sif7 1S2z1i
1Sige 1Sigb 1Sigs 1Sijl 1Sijm 1Sb3j 1Sikd 1Silk 1Sim5 1Sind 1Sb4y 1S2zr7 1Sb5o 1Sipc 1Sipf 1Sipi
1Siq2 1S3pg2 1Siri 1S3035 1S3035 1Spoh 1Sisi 1Sisi 1Sb7r 1S335k 1S3cgq 1Siua 1Siuj 1Sb8j 1Sivu
1Six9 1Sixj 1Siyh 1Sj29 1Sbay 1Sba4 1Sj2s 1S30t0 1Sj47 1Sj7s 1Sj7w 1Sj7y 1Sj7w 1Sj96 1Sj9q 1Sjaq
1Sjac 1Sjan 1Sjby 1Sjci 1Sjcm 1Sjdc 1Sjdn 1Sjfh 1Sjht 1Sjis 1Sjm8 1S31n0 1Sjlp 1Sjjw 1Sjmw 1Sjnn
1Sjqc 1S31td 1Sjs2 1Sjph 1Sjop 1Sbhq 1Sju1 1Sjum 1Sjvh 1Sjuf 1Sbjg 1Sk0f 1Sk18 1S32mi 1Sk4j
1Skc8 1Sk7d 1Sbo9 1Sk9d 1Sbns 1Sbms 1Sg42 1Sg45 1Skcg 1Sk9o 1Spf1 1Sdeh 1Skd3 1Skd7 1Skdd 1Skf2
1Sker 1S33cz 1Sbpl 1Skje 1Skg5 1Sklu 1Skn9 1S33hp 1Skni 1Skkf 1Skr8 1Sbrx 1Sksi 1Skv7 1Skx6
1Sl2g 1S33xf 1Sl3v 1Sbvc 1Sl5t 1S34br 1Sl78 1Sbwu 1Sl82 1Sl9b 1Sla2 1Sla3 1S34p9 1S2yvf 1S34sa
1Sle6 1S354s 1Slhb 1Slhp 1Slev 1Sljq 1Slku 1Slmf 1Slkx 1Slm1 1Slmg 1Slmt 1S357i 1Slkk 1Slrj
1Slta 1Sc37 1Slvv 1Slvr 1S35jl 1Slq1 1Sm0e 1S35ni 1S35ou 1Sm2u 1Sm61 1Sm5a 1Sm57 1Sc5y 1Sm6i
1Sm7x 1Sm7r 1Sm99 1S2u5h 1Smdh 1S368z 1Smfw 1S36i3 1Smjs 1Smk5 1Smkw 1S36yw 1Smm8 1Smmt 1S3779
1S37dg 1Smt6 1Smtn 1Scdo 1Smud 1Sce0 1Sce0 1Smyv 1Smzg 1Sn01 1Sn0l 1Sn2i 1Scgr 1Sn50 1S386u
1Sn5q 1S389e 1Sn74 1S2zrz 1Snbk 1S38v5 1S38vs 1S38zo 1Scn0 1Scnc 1Snhw 1S394j 1S394i 1S395l
1S396b 1Snj2 1Snj3 1Snj3 1Snka 1Scop 1Snm3 1Scp2 1Scra 1S39r1 1Snri 1Snt8 1Snv0 1Sctf 1S3a5i
1Snyu 1S3a8q 1S3a9x 1So0f 1So2z 1Scvj 1So5c 1So5m 1So5r 1S3at8 1S3b1j 1S3b1j 1Soa6 1Sd1e 1S3b8r
1Sog6 1Sog9 1Sd2f 1S3beo 1Sonm 1Sd5s 1Soo8 1Soo3 1Soow 1S3c06 1Sorn 1Sd8h 1Souf 1Sow2 1Soxx
1Sd9w 1S3ciw 1S3cjr 1Sdax 1S3cnt 1Sp6i 1S3cqm 1Sp79 1Spa2 1Spad 1S3d22 1S3d43 1Spcw 1S3d7s 1Spdc
1S33a7 1Sded 1Spf6 1Sphf 1Sdfv 1Spj2 1Shx1 1S3dlz 1S3dmd 1S33bn 1S33bw 1Spoh 1Spok 1Ssda 1Sdij
1Spsh 1Spsb 1Spst 1Sgc3 1Sptd 1Sptf 1Sptp 1Spuu 1S3ebg 1Sput 1Spwd 1Spyb 1Sq0d 1Spwj 1Sq0t 1Sq1z
1Sq53 1Spxv 1Sq16 1Sq18 1Sq1o 1S3eie 1S3eqz 1S3emt 1Sdnv 1Sq9d 1Sq9f 1Sqae 1S3g0a 1Sqck 1S3f3g
1Sdp9 1Sdpd 1S3f75 1S3ff6 1Sdpn 1Sqj4 1Sqjg 1Sqjr 1Sqjt 1Sqll 1Sqko 1Sqoe 1Sqn6 1Sqrd 1Sqp4
1Sqqz 1Sqrq 1Sdsn 1Squ9 1Sqv5 1Sdtl 1Sqxs 1Sqxv 1S3giv 1Sr13 1Sr1a 1Sdv9 1Sr22 1Saez 1S3gz2
1S3h46 1Sdz2 1Sdzb 1Srds 1Srfx 1Srka 1Srpx 1S3hrc 1Srsb 1Srsx 1Srvf 1Srxz 1S3i9b 1S2upw 1Ss0b
1Srzw 1Ss1c 1S2uvy 1Ss7o 1Ssag 1S3jki 1S3jl9 1Ssk4 1Ssmp 1Ssnl 1S3ju6 1Ssnv 1Ssvs 1St07 1St08
1Ssxo 1St89 1St91 1S3ksa 1Stjf 1Sej9 1Stkn 1S3l2v 1Seli 1Sts3 1Siia 1Stur 1S3ltx 1S3lzu 1Sepa
1Sepi 1Su00 1S3mdm 1Ser6 1S3mhi 1Su17 1Su17 1Su21 1S3mpi 1Su76 1Seur 1Su95 1Sucn 1Sude 1Suf2
1Sez2 1S3nsg 1Sumq 1Suv4 1Sv0d 1Sf66 1Sf71 1Sv3b 1S3owe 1Sf7c 1S3oxx 1S3p5a 1S3p8x 1Svcr 1Sf9y
1Sveh 1Svem 1Svet 1Svf3 1Svfa 1Svgb 1S3pxc"

end GuidedLogin.Unicode
